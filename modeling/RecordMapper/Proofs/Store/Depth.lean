import RecordMapper.Proofs.Store.Program
import RecordMapper.Proofs.Store.Sqlite

/-! # The number of transactions

The store of SQLite counts the blocks that are entered, whichever of the statements fail. -/

namespace RecordMapper

open Procedure

variable {σ ε α : Type}

namespace Sqlite

variable (q : Sqlite σ)

theorem keeps_depth_command (text : String) : Keeps SqliteState.depth (q.command text) :=
  fun _ => rfl

theorem looksOnly_depth : q.LooksOnly SqliteState.depth := fun text _ => q.keeps_depth_command text

theorem keeps_depth_control (text : String) : Keeps SqliteState.depth (q.control text) :=
  keeps_control q.looksOnly_depth (q.keeps_depth_command text)

theorem keeps_depth_execute (st : Statement) (d : Option Deadline) :
    Keeps SqliteState.depth (q.execute st d) :=
  keeps_execute q.looksOnly_depth (fun _ _ _ => rfl) (fun _ _ => rfl) d

/-- The statement that marks the contents for a block within as many others. -/
def beginText (depth : Nat) : String :=
  if depth = 0 then "BEGIN" else s!"SAVEPOINT {savepoint depth}"

theorem runFrom_begin (s : SqliteState σ) :
    q.begin.runFrom s =
      match (q.control (beginText s.depth)).runFrom s with
      | (.ok _, t) => (.ok (), { t with depth := s.depth + 1 })
      | (.error e, t) => (.error e, t) := by
  simp only [begin, runFrom_bind, runFrom_read]
  rw [← beginText]
  rcases (q.control (beginText s.depth)).runFrom s with ⟨_ | _, t⟩ <;> rfl

theorem depth_of_begin_ok {s t : SqliteState σ} (h : q.begin.runFrom s = (.ok (), t)) :
    t.depth = s.depth + 1 := by
  rw [runFrom_begin] at h
  rcases hr : (q.control (beginText s.depth)).runFrom s with ⟨_ | _, u⟩ <;> rw [hr] at h
  · cases h
  · cases h
    rfl

theorem depth_of_begin_error {s t : SqliteState σ} {e : StoreFault}
    (h : q.begin.runFrom s = (.error e, t)) : t.depth = s.depth := by
  have hkeeps := q.keeps_depth_control (beginText s.depth) s
  rw [runFrom_begin] at h
  rcases hr : (q.control (beginText s.depth)).runFrom s with ⟨_ | _, u⟩ <;> rw [hr] at h hkeeps
  · cases h
    exact hkeeps
  · cases h

/-- The block that is left is no longer counted while its work is kept. -/
theorem runFrom_commit (s : SqliteState σ) :
    q.commit.runFrom s =
      (if s.depth - 1 = 0 then q.commitOutermost
        else q.control s!"RELEASE SAVEPOINT {savepoint (s.depth - 1)}").runFrom
        { s with depth := s.depth - 1 } := rfl

/-- The block that is left is no longer counted while its work is taken back. -/
theorem runFrom_rollback (s : SqliteState σ) :
    q.rollback.runFrom s =
      (if s.depth - 1 = 0 then q.control "ROLLBACK"
        else do
          q.control s!"ROLLBACK TO SAVEPOINT {savepoint (s.depth - 1)}"
          q.control s!"RELEASE SAVEPOINT {savepoint (s.depth - 1)}").runFrom
        { s with depth := s.depth - 1 } := rfl

theorem keeps_depth_commitOutermost : Keeps SqliteState.depth q.commitOutermost := by
  refine (q.keeps_depth_command "COMMIT").attempt.bind fun r => ?_
  cases r with
  | ok _ => exact keeps_pure ()
  | error e =>
      have hfail : Keeps SqliteState.depth (q.fail e : Procedure _ _ Unit) :=
        keeps_fail q.looksOnly_depth e
      refine (keeps_read _).bind fun isOpen => ?_
      cases isOpen with
      | true => exact ((q.keeps_depth_command "ROLLBACK").adapt _).bind fun _ => hfail
      | false => exact hfail

theorem depth_commit (s : SqliteState σ) : (q.commit.runFrom s).2.depth = s.depth - 1 := by
  rw [runFrom_commit]
  split
  · exact q.keeps_depth_commitOutermost _
  · exact q.keeps_depth_control _ _

theorem depth_rollback (s : SqliteState σ) : (q.rollback.runFrom s).2.depth = s.depth - 1 := by
  rw [runFrom_rollback]
  split
  · exact q.keeps_depth_control _ _
  · exact ((q.keeps_depth_control _).bind fun _ => q.keeps_depth_control _) _

theorem keeps_depth_transaction {fault : StoreFault → ε}
    {body : Procedure (SqliteState σ) ε α} (hbody : Keeps SqliteState.depth body) :
    Keeps SqliteState.depth (q.store.transaction fault body) := by
  intro s
  have hcommit : ∀ t, (q.store.commit.runFrom t).2.depth = t.depth - 1 := q.depth_commit
  have hrollback : ∀ t, (q.store.rollback.runFrom t).2.depth = t.depth - 1 := q.depth_rollback
  rw [Store.runFrom_transaction]
  rcases hbegin : q.store.begin.runFrom s with ⟨e | _, t⟩
  · exact q.depth_of_begin_error hbegin
  · have ht : t.depth = s.depth + 1 := q.depth_of_begin_ok hbegin
    have hleft := hbody t
    rcases hr : body.runFrom t with ⟨e | a, u⟩ <;> rw [hr] at hleft
    · have hu := hrollback u
      dsimp only
      rcases hv : q.store.rollback.runFrom u with ⟨_ | _, v⟩ <;> rw [hv] at hu <;>
        simp_all
    · have hu := hcommit u
      dsimp only
      rcases hv : q.store.commit.runFrom u with ⟨_ | _, v⟩ <;> rw [hv] at hu <;>
        simp_all

end Sqlite

namespace Program

variable {q : Sqlite σ} {fault : StoreFault → ε} {p p' : Program ε α} {s s' : SqliteState σ}
  {n : Nat}

/-- After a program, so many blocks are entered as before. -/
theorem keeps_depth_eval (q : Sqlite σ) (fault : StoreFault → ε) (p : Program ε α) :
    Keeps SqliteState.depth (p.eval q.store fault) := by
  induction p with
  | done outcome => exact keeps_ofExcept outcome
  | execute st d next ih =>
      exact (q.keeps_depth_execute st d).attempt.bind fun r => ih r
  | block body next ihbody ih =>
      exact (q.keeps_depth_transaction ihbody).attempt.bind fun r => ih r

/-- At every point, the count is the number of blocks that are entered. -/
theorem Reaches.depth_eq (h : Reaches q.store fault p s n p' s') : s'.depth = s.depth + n := by
  induction h with
  | start => rfl
  | @executed s t n st d next p hrest ih =>
      rw [ih]
      exact congrArg (· + n) (q.keeps_depth_execute st d s)
  | entered hbegin hrest ih =>
      rw [ih, q.depth_of_begin_ok hbegin]
      omega
  | @left s t n body next p hrest ih =>
      rw [ih]
      exact congrArg (· + n) (q.keeps_depth_transaction (keeps_depth_eval q fault body) s)

end Program

end RecordMapper
