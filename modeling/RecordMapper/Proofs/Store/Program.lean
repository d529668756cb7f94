import RecordMapper.Proofs.Store.Procedure
import RecordMapper.Store.Basic

/-! # Programs of statements and transactions

A program executes statements and runs blocks in transactions, one within the other. It may fail
anywhere, and goes on after a statement or a block as the outcome tells it, so it may catch any
failure there or pass it on. -/

namespace RecordMapper

variable {σ ε α : Type}

/-- A program whose blocks fail with errors of type `ε`: it ends, executes a statement, or runs a
block in a transaction. -/
inductive Program (ε α : Type) where
  | done (outcome : Except ε α)
  | execute (s : Statement) (d : Option Deadline)
      (next : Except StoreFault (List (Row Value)) → Program ε α)
  | block (body : Program ε α) (next : Except ε α → Program ε α)

/-- What a transaction does from beginning to end. -/
theorem Store.runFrom_transaction (store : Store σ) (fault : StoreFault → ε)
    (body : Procedure σ ε α) (s : σ) :
    (store.transaction fault body).runFrom s =
      match store.begin.runFrom s with
      | (.error e, t) => (.error (fault e), t)
      | (.ok _, t) =>
        match body.runFrom t with
        | (.error e, u) =>
          match store.rollback.runFrom u with
          | (.error f, v) => (.error (fault f), v)
          | (.ok _, v) => (.error e, v)
        | (.ok a, u) =>
          match store.commit.runFrom u with
          | (.error f, v) => (.error (fault f), v)
          | (.ok _, v) => (.ok a, v) := by
  simp only [transaction, Procedure.runFrom_bind, Procedure.runFrom_adapt,
    Procedure.runFrom_attempt]
  rcases store.begin.runFrom s with ⟨_ | _, t⟩
  · rfl
  dsimp only [Except.mapError]
  rcases body.runFrom t with ⟨e | a, u⟩
  · simp only [Procedure.runFrom_bind, Procedure.runFrom_adapt]
    rcases store.rollback.runFrom u with ⟨_ | _, v⟩ <;> rfl
  · simp only [Procedure.runFrom_bind, Procedure.runFrom_adapt]
    rcases store.commit.runFrom u with ⟨_ | _, v⟩ <;> rfl

namespace Program

/-- Every statement of a program is one of some. -/
def All (P : Statement → Prop) : Program ε α → Prop
  | done _ => True
  | execute s _ next => P s ∧ ∀ r, (next r).All P
  | block body next => body.All P ∧ ∀ r, (next r).All P

/-- What a program does on a store. -/
def eval (store : Store σ) (fault : StoreFault → ε) : Program ε α → Procedure σ ε α
  | done outcome => .ofExcept outcome
  | execute s d next => do
    let r ← (store.execute s d).attempt
    (next r).eval store fault
  | block body next => do
    let r ← (store.transaction fault (body.eval store fault)).attempt
    (next r).eval store fault

/-- A program that is run from a state gets to a point with so many blocks entered: the program that
is left of the innermost one, and the state. -/
inductive Reaches (store : Store σ) (fault : StoreFault → ε) :
    Program ε α → σ → Nat → Program ε α → σ → Prop where
  | start (p : Program ε α) (s : σ) : Reaches store fault p s 0 p s
  | executed {s t : σ} {n : Nat} {st : Statement} {d : Option Deadline}
      {next : Except StoreFault (List (Row Value)) → Program ε α} {p : Program ε α} :
      Reaches store fault (next ((store.execute st d).runFrom s).1)
        ((store.execute st d).runFrom s).2 n p t →
      Reaches store fault (.execute st d next) s n p t
  | entered {s s' t : σ} {n : Nat} {body : Program ε α} {next : Except ε α → Program ε α}
      {p : Program ε α} : store.begin.runFrom s = (.ok (), s') →
      Reaches store fault body s' n p t → Reaches store fault (.block body next) s (n + 1) p t
  | left {s t : σ} {n : Nat} {body : Program ε α} {next : Except ε α → Program ε α}
      {p : Program ε α} :
      Reaches store fault
        (next ((store.transaction fault (body.eval store fault)).runFrom s).1)
        ((store.transaction fault (body.eval store fault)).runFrom s).2 n p t →
      Reaches store fault (.block body next) s n p t

end Program

end RecordMapper
