import RecordMapper.Proofs.Changeset.Growth
import RecordMapper.Proofs.Store.Procedure
import RecordMapper.Repo.Commit

/-! # What a commit sends and gives back

A commit is settled without the store, or one statement is sent and what the store answers is given
back. -/

namespace RecordMapper

variable {σ : Type}

/-! ## Exchanges with a store -/

/-- A statement that was sent to a store with its deadline, and the rows that came back or why there
are none. -/
structure Exchange where
  statement : Statement
  deadline : Option Deadline
  answer : Except StoreFault (List (Row Value))

/-- The store, with a record of all exchanges in order. -/
def Store.recorded (store : Store σ) : Store (σ × List Exchange) where
  moment t := store.moment t.1
  execute s deadline := .ofFunction fun t =>
    let r := (store.execute s deadline).runFrom t.1
    (r.1, r.2, t.2 ++ [⟨s, deadline, r.1⟩])
  begin := store.begin.within Prod.fst fun s t => (s, t.2)
  commit := store.commit.within Prod.fst fun s t => (s, t.2)
  rollback := store.rollback.within Prod.fst fun s t => (s, t.2)

namespace Changeset

variable {c : Changeset} {e : StorageError}

/-- Only a violation is one of a declared constraint. -/
theorem isViolation_of_constraintFor? {k : Constraint} (h : c.constraintFor? e = some k) :
    e.isViolation = true := by
  unfold constraintFor? at h
  split at h
  · rename_i k' hfind
    have hviolated := List.find?_some hfind
    simp only [Constraint.isViolatedBy, Bool.and_eq_true] at hviolated
    exact hviolated.1.1
  · split at h
    · assumption
    · cases h

end Changeset

namespace Repo

/-- The repository over the store with a record of all exchanges. -/
def recorded (repo : Repo σ) : Repo (σ × List Exchange) :=
  { repo with store := repo.store.recorded }

/-- Submits a changeset, for an action if one is given and otherwise for the one it asks for. -/
def submit (repo : Repo σ) (call : Option Action) (c : Changeset) (own : Option Deadline) :
    RepoCall σ Commit :=
  match call with
  | some .insert => repo.insert c own
  | some .update => repo.update c own
  | some .delete => repo.delete c own
  | none => repo.commit c own

theorem submit_eq (repo : Repo σ) (call : Option Action) (c : Changeset) (own : Option Deadline) :
    repo.submit call c own = repo.submit (some (call.getD c.intendedAction)) c own := by
  cases call with
  | some a => rfl
  | none =>
      rw [Option.getD_none, submit, commit]
      cases c.intendedAction <;> rfl

/-! ## Before the store -/

/-- A statement to be sent, the entity that the row which comes back is merged into, and the origin
that the entity is to have. -/
structure Sending where
  statement : Statement
  applied : Entity
  origin : Origin

/-- The outcome of a submission that is settled without the store, or what is to be sent. -/
def prepare (d : Dialect) (a : Action) (c : Changeset) : Except RepoError (Commit ⊕ Sending) :=
  if !c.isValid then .ok (.inl ⟨none, c⟩)
  else if a ≠ .insert ∧ !c.data.isStored then .error (.neverStored a.name c.schema.name)
  else
    match a with
    | .insert => do
      let applied ← c.apply.mapError .entity
      let s ← (c.schema.insertion d (Changeset.newRecord c.schema applied)).mapError .ofWrite
      return .inr ⟨s, applied, .loaded⟩
    | .update => do
      let applied ← c.apply.mapError .entity
      if c.storedChanges.isEmpty then return .inl ⟨some applied, c⟩
      let s ← (c.schema.change d c.data.key c.storedChanges).mapError .ofWrite
      return .inr ⟨s, applied, .loaded⟩
    | .delete => .ok (.inr ⟨c.schema.removal d c.data.key, c.data, .deleted⟩)

/-- A submission goes on with what was prepared. -/
def proceed (repo : Repo σ) (c : Changeset) (own : Option Deadline)
    (prepared : Except RepoError (Commit ⊕ Sending)) : RepoCall σ Commit :=
  match prepared with
  | .error e => throw e
  | .ok (.inl k) => pure k
  | .ok (.inr x) => repo.send c x.statement x.applied x.origin own

section Proceed

variable (repo : Repo σ) (c : Changeset) (own : Option Deadline)

@[simp] theorem proceed_error (e : RepoError) : repo.proceed c own (.error e) = throw e := rfl

@[simp] theorem proceed_inl (k : Commit) : repo.proceed c own (.ok (.inl k)) = pure k := rfl

@[simp] theorem proceed_inr (x : Sending) :
    repo.proceed c own (.ok (.inr x)) = repo.send c x.statement x.applied x.origin own := rfl

/-- Preparing in two parts is preparing the first part and going on with the second. -/
theorem proceed_bind {α : Type} (x : Except RepoError α)
    (f : α → Except RepoError (Commit ⊕ Sending)) :
    repo.proceed c own (x >>= f) = Procedure.ofExcept x >>= fun a => repo.proceed c own (f a) := by
  cases x <;> rfl

end Proceed

/-- What a submission does in a state is what follows from what it prepares. -/
theorem runFrom_submit (repo : Repo σ) (a : Action) (c : Changeset) (own : Option Deadline)
    (r : RepoState σ) :
    (repo.submit (some a) c own).runFrom r =
      (repo.proceed (c.submittedFor a) own
        (prepare r.compiler.dialect a (c.submittedFor a))).runFrom r := by
  cases a with
  | insert =>
      simp only [submit, insert, prepare]
      split
      · rfl
      · rw [if_neg (by simp)]
        simp only [applied, dialect, written, proceed_bind, Procedure.runFrom_bind,
          Procedure.runFrom_read, Procedure.runFrom_ofExcept]
        rfl
  | update =>
      simp only [submit, update, prepare]
      split
      · rfl
      · split
        · rename_i hstored
          rw [if_pos ⟨nofun, hstored⟩]
          rfl
        · rename_i hstored
          rw [if_neg fun h => hstored h.2, applied, proceed_bind, Procedure.runFrom_bind,
            Procedure.runFrom_bind]
          split
          · split
            · rfl
            · simp only [dialect, written, proceed_bind, Procedure.runFrom_bind,
                Procedure.runFrom_read]
              rfl
          · rfl
  | delete =>
      simp only [submit, delete, prepare]
      split
      · rfl
      · split
        · rename_i hstored
          rw [if_pos ⟨nofun, hstored⟩]
          rfl
        · rename_i hstored
          rw [if_neg fun h => hstored h.2, dialect, Procedure.runFrom_bind, Procedure.runFrom_read,
            proceed_inr]

/-- A submission that is settled without the store comes back as it was submitted: without an entity
if something is wrong with it, and with one if nothing is. -/
theorem of_prepare_eq_inl {d : Dialect} {a : Action} {c : Changeset} {k : Commit}
    (h : prepare d a c = .ok (.inl k)) :
    k.changeset = c ∧ k.entity.isSome = c.isValid := by
  unfold prepare at h
  split at h
  · rename_i hvalid
    cases h
    exact ⟨rfl, by simpa using hvalid⟩
  · rename_i hvalid
    have hvalid : c.isValid = true := by simpa using hvalid
    split at h
    · cases h
    · split at h
      · simp at h
      · rw [Outcome.bind_eq_ok_iff] at h
        obtain ⟨applied, -, h⟩ := h
        split at h
        · simp only [Outcome.pure_eq_ok_iff, Sum.inl.injEq] at h
          subst h
          exact ⟨rfl, hvalid.symm⟩
        · simp at h
      · cases h

/-- A submission that is not settled with no entity is valid. -/
theorem isValid_of_prepare_ne {d : Dialect} {a : Action} {c : Changeset}
    (h : prepare d a c ≠ .ok (.inl ⟨none, c⟩)) : c.isValid = true := by
  by_contra hinvalid
  exact h (by simp [prepare, hinvalid])

/-! ## After the store -/

/-- What is made of the answer of a store to what was sent. -/
def answered (c : Changeset) (applied : Entity) (origin : Origin) :
    Except StoreFault (List (Row Value)) → Except RepoError Commit
  | .error fault => refused c (.store fault)
  | .ok [] => .error (.store (.storage c.noRows))
  | .ok (row :: _) => (applied.mergeRow row origin).map fun entity => ⟨some entity, c⟩

theorem runFrom_execute (repo : Repo σ) (s : Statement) (own : Option Deadline) (r : RepoState σ) :
    (repo.execute s own).runFrom r =
      match repo.deadlineOf own (repo.store.moment r.store) with
      | .error e => (.error e, r)
      | .ok deadline =>
        let answer := (repo.store.execute s deadline).runFrom r.store
        (answer.1.mapError .store, { r with store := answer.2 }) := by
  simp only [execute, storeWithin, Store.within, Procedure.runFrom_bind, Procedure.runFrom_read,
    Procedure.runFrom_ofExcept, Procedure.runFrom_adapt, Procedure.runFrom_within]
  cases repo.deadlineOf own (repo.store.moment r.store) <;> rfl

theorem refused_of_deadlineOf {repo : Repo σ} {own : Option Deadline} {m : Moment} {e : RepoError}
    (c : Changeset) (h : repo.deadlineOf own m = .error e) : refused c e = .error e := by
  unfold deadlineOf at h
  split at h
  · cases h
  · split at h
    · cases h
    · cases hafter : Deadline.after m repo.timeout false with
      | error e' =>
          rw [hafter] at h
          cases h
          rfl
      | ok d =>
          rw [hafter] at h
          cases h

theorem runFrom_send (repo : Repo σ) (c : Changeset) (s : Statement) (applied : Entity)
    (origin : Origin) (own : Option Deadline) (r : RepoState σ) :
    (repo.send c s applied origin own).runFrom r =
      match repo.deadlineOf own (repo.store.moment r.store) with
      | .error e => (.error e, r)
      | .ok deadline =>
        let answer := (repo.store.execute s deadline).runFrom r.store
        (answered c applied origin answer.1, { r with store := answer.2 }) := by
  rw [send, Procedure.runFrom_bind, Procedure.runFrom_attempt, runFrom_execute]
  cases hdeadline : repo.deadlineOf own (repo.store.moment r.store) with
  | error e =>
      dsimp only
      rw [Procedure.runFrom_ofExcept, refused_of_deadlineOf c hdeadline]
  | ok deadline =>
      dsimp only
      cases (repo.store.execute s deadline).runFrom r.store with
      | mk answer t =>
          cases answer with
          | error fault => rfl
          | ok rows =>
              cases rows with
              | nil => rfl
              | cons row rows =>
                  simp only [Except.mapError, Procedure.runFrom_bind, Procedure.runFrom_ofExcept,
                    answered]
                  cases applied.mergeRow row origin <;> rfl

/-! ## Ends of a submission -/

/-- How the submission of a changeset may end, and what was sent to the store for it. -/
inductive Ends (c : Changeset) : List Exchange → Except RepoError Commit → Prop where
  | rejected : c.isValid = false → Ends c [] (.ok ⟨none, c⟩)
  | unsent (e : RepoError) : c.isValid = true → Ends c [] (.error e)
  | unchanged (entity : Entity) : c.isValid = true → Ends c [] (.ok ⟨some entity, c⟩)
  | stored {x : Exchange} {row : Row Value} {rows : List (Row Value)} (entity : Entity) :
      c.isValid = true → x.answer = .ok (row :: rows) → Ends c [x] (.ok ⟨some entity, c⟩)
  | unread {x : Exchange} {row : Row Value} {rows : List (Row Value)} (e : RepoError) :
      c.isValid = true → x.answer = .ok (row :: rows) → Ends c [x] (.error e)
  | missed {x : Exchange} :
      c.isValid = true → x.answer = .ok [] → Ends c [x] (.error (.store (.storage c.noRows)))
  | violated {x : Exchange} {e : StorageError} {k : Constraint} {error : FieldError} :
      c.isValid = true → x.answer = .error (.storage e) → c.constraintFor? e = some k →
        error.source = .constraint → error.field = k.field →
          Ends c [x] (.ok ⟨none, { c with errors := [error] }⟩)
  | failed {x : Exchange} {fault : StoreFault} :
      c.isValid = true → x.answer = .error fault →
        (∀ e, fault = .storage e → c.constraintFor? e = none) →
          Ends c [x] (.error (.store fault))

variable {c : Changeset}

theorem ends_of_prepare_eq_error {d : Dialect} {a : Action} {e : RepoError}
    (h : prepare d a c = .error e) : Ends c [] (.error e) :=
  .unsent e (isValid_of_prepare_ne fun hsettled => nomatch h.symm.trans hsettled)

theorem ends_of_prepare_eq_inl {d : Dialect} {a : Action} {k : Commit}
    (h : prepare d a c = .ok (.inl k)) : Ends c [] (.ok k) := by
  obtain ⟨entity, changeset⟩ := k
  obtain ⟨rfl, hentity⟩ := of_prepare_eq_inl h
  cases entity with
  | none => exact .rejected hentity.symm
  | some entity => exact .unchanged entity hentity.symm

theorem ends_of_refused (hvalid : c.isValid = true) {x : Exchange} {fault : StoreFault}
    (hx : x.answer = .error fault) : Ends c [x] (refused c (.store fault)) := by
  cases fault with
  | storage e =>
      cases hconstraint : c.constraintFor? e with
      | none =>
          simp only [refused, Changeset.addViolation?, hconstraint, Option.map_none]
          refine .failed hvalid hx fun e' he => ?_
          rwa [← StoreFault.storage.inj he]
      | some k =>
          have hnone : c.errors = [] := List.isEmpty_iff.mp hvalid
          simp only [refused, Changeset.addViolation?, hconstraint, Option.map_some,
            Changeset.addError, hnone, List.any_nil, Bool.false_eq_true, if_false, List.nil_append]
          exact .violated hvalid hx hconstraint rfl rfl
  | notStorable cause => exact .failed hvalid hx fun _ he => nomatch he
  | connection e => exact .failed hvalid hx fun _ he => nomatch he

theorem ends_of_answered (hvalid : c.isValid = true) (applied : Entity) (origin : Origin)
    (x : Exchange) : Ends c [x] (answered c applied origin x.answer) := by
  cases hx : x.answer with
  | error fault => exact ends_of_refused hvalid hx
  | ok rows =>
      cases rows with
      | nil => exact .missed hvalid hx
      | cons row rows =>
          rw [answered]
          cases applied.mergeRow row origin with
          | error e => exact .unread e hvalid hx
          | ok entity => exact .stored entity hvalid hx

/-- What was prepared goes on over the store with a record as it does over the store itself, and it
ends in one of the ways. -/
theorem ends_proceed (repo : Repo σ) (c : Changeset) (own : Option Deadline) (compiler : Compiler)
    (s : σ) {d : Dialect} {a : Action} :
    let recorded := (repo.recorded.proceed c own (prepare d a c)).runFrom ⟨compiler, s, []⟩
    let plain := (repo.proceed c own (prepare d a c)).runFrom ⟨compiler, s⟩
    recorded.1 = plain.1 ∧ recorded.2.compiler = plain.2.compiler ∧
      recorded.2.store.1 = plain.2.store ∧ Ends c recorded.2.store.2 plain.1 := by
  cases hprepared : prepare d a c with
  | error e => simpa using ends_of_prepare_eq_error hprepared
  | ok outcome =>
      cases outcome with
      | inl k => simpa using ends_of_prepare_eq_inl hprepared
      | inr x =>
          have hvalid := isValid_of_prepare_ne fun h => nomatch hprepared.symm.trans h
          have hsame : repo.recorded.deadlineOf own (repo.recorded.store.moment (s, [])) =
              repo.deadlineOf own (repo.store.moment s) := rfl
          simp only [proceed_inr, runFrom_send, hsame]
          cases repo.deadlineOf own (repo.store.moment s) with
          | error e => exact ⟨rfl, rfl, rfl, .unsent e hvalid⟩
          | ok deadline =>
              exact ⟨rfl, rfl, rfl, ends_of_answered hvalid x.applied x.origin
                ⟨x.statement, deadline, ((repo.store.execute x.statement deadline).runFrom s).1⟩⟩

/-! ## The discipline -/

/-- What may be sent to a store for a submitted changeset, and what may come back. At most one
statement is sent, and none for what is invalid. An entity comes back exactly with a valid
changeset, and what is valid comes back invalid only for a violation of a declared constraint, with
one error on its field. Any other fault of the store is the one that the call fails with, and no
rows are a fault. -/
structure Discipline (c : Changeset) (sent : List Exchange) (result : Except RepoError Commit) :
    Prop where
  once : sent.length ≤ 1
  invalid : c.isValid = false → sent = [] ∧ result = .ok ⟨none, c⟩
  unmixed : ∀ k, result = .ok k → k.entity.isSome = k.changeset.isValid
  violated : c.isValid = true → ∀ k, result = .ok k → k.changeset.isValid = false →
    ∃ x e constraint error, sent = [x] ∧ x.answer = .error (.storage e) ∧ e.isViolation = true ∧
      c.constraintFor? e = some constraint ∧ k.changeset = { c with errors := [error] } ∧
      error.source = .constraint ∧ error.field = constraint.field
  told : ∀ x ∈ sent, ∀ e, x.answer = .error (.storage e) → c.constraintFor? e ≠ none →
    ∃ k, result = .ok k ∧ k.entity = none
  passed : ∀ x ∈ sent, ∀ fault, x.answer = .error fault →
    (∀ e, fault = .storage e → c.constraintFor? e = none) → result = .error (.store fault)
  missed : ∀ x ∈ sent, x.answer = .ok [] → ∃ e, result = .error (.store (.storage e))

namespace Ends

variable {sent : List Exchange} {result : Except RepoError Commit}

theorem once (h : Ends c sent result) : sent.length ≤ 1 := by
  cases h <;> simp

theorem invalid (h : Ends c sent result) (hinvalid : c.isValid = false) :
    sent = [] ∧ result = .ok ⟨none, c⟩ := by
  cases h with
  | rejected => exact ⟨rfl, rfl⟩
  | _ => simp_all

theorem unmixed (h : Ends c sent result) (k : Commit) (hk : result = .ok k) :
    k.entity.isSome = k.changeset.isValid := by
  cases h <;> cases hk
  case rejected hinvalid => exact hinvalid.symm
  case unchanged hvalid => exact hvalid.symm
  case stored hvalid _ => exact hvalid.symm
  case violated => rfl

theorem violated_of_not_isValid (h : Ends c sent result) (hvalid : c.isValid = true) (k : Commit)
    (hk : result = .ok k) (hinvalid : k.changeset.isValid = false) :
    ∃ x e constraint error, sent = [x] ∧ x.answer = .error (.storage e) ∧ e.isViolation = true ∧
      c.constraintFor? e = some constraint ∧ k.changeset = { c with errors := [error] } ∧
      error.source = .constraint ∧ error.field = constraint.field := by
  cases h <;> cases hk
  case violated x e k error _ hx hconstraint hsource hfield =>
    exact ⟨x, e, k, error, rfl, hx, Changeset.isViolation_of_constraintFor? hconstraint,
      hconstraint, rfl, hsource, hfield⟩
  all_goals exact absurd hvalid (Bool.eq_false_iff.mp hinvalid)

theorem told (h : Ends c sent result) (x : Exchange) (hx : x ∈ sent) (e : StorageError)
    (he : x.answer = .error (.storage e)) (hdeclared : c.constraintFor? e ≠ none) :
    ∃ k, result = .ok k ∧ k.entity = none := by
  cases h with
  | violated => exact ⟨_, rfl, rfl⟩
  | failed _ hanswer hother =>
      rw [List.mem_singleton.mp hx, hanswer] at he
      exact absurd (hother e (Except.error.inj he)) hdeclared
  | _ => simp_all

theorem passed (h : Ends c sent result) (x : Exchange) (hx : x ∈ sent) (fault : StoreFault)
    (hfault : x.answer = .error fault)
    (hother : ∀ e, fault = .storage e → c.constraintFor? e = none) :
    result = .error (.store fault) := by
  cases h with
  | violated _ hanswer hconstraint =>
      rw [List.mem_singleton.mp hx, hanswer] at hfault
      rw [hother _ (Except.error.inj hfault).symm] at hconstraint
      cases hconstraint
  | failed _ hanswer =>
      rw [List.mem_singleton.mp hx, hanswer] at hfault
      rw [Except.error.inj hfault]
  | _ => simp_all

theorem missed_of_nil (h : Ends c sent result) (x : Exchange) (hx : x ∈ sent)
    (hrows : x.answer = .ok []) : ∃ e, result = .error (.store (.storage e)) := by
  cases h with
  | missed => exact ⟨c.noRows, rfl⟩
  | _ => simp_all

theorem discipline (h : Ends c sent result) : Discipline c sent result :=
  ⟨h.once, h.invalid, h.unmixed, h.violated_of_not_isValid, h.told, h.passed, h.missed_of_nil⟩

end Ends

/-- Whatever the store answers, a submission keeps the discipline. What it sends is read off the
store with a record of all exchanges, over which it does the same. -/
theorem discipline_submit (repo : Repo σ) (call : Option Action) (c : Changeset)
    (own : Option Deadline) (compiler : Compiler) (s : σ) :
    let recorded := (repo.recorded.submit call c own).runFrom ⟨compiler, s, []⟩
    let plain := (repo.submit call c own).runFrom ⟨compiler, s⟩
    recorded.1 = plain.1 ∧ recorded.2.compiler = plain.2.compiler ∧
      recorded.2.store.1 = plain.2.store ∧
      Discipline (c.submittedFor (call.getD c.intendedAction)) recorded.2.store.2 plain.1 := by
  rw [submit_eq, repo.submit_eq, runFrom_submit, runFrom_submit]
  obtain ⟨hresult, hcompiler, hstore, hends⟩ := ends_proceed repo
    (c.submittedFor (call.getD c.intendedAction)) own compiler s
  exact ⟨hresult, hcompiler, hstore, hends.discipline⟩

end Repo

end RecordMapper
