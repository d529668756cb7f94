import RecordMapper.Proofs.Outcome
import RecordMapper.Proofs.Store.Procedure
import RecordMapper.Store.Sqlite

/-! # What the store of SQLite leaves alone

What a failure and a statement with parameters leave as they find it, if the connection does. -/

namespace RecordMapper.Sqlite

open Procedure

variable {σ τ α : Type} {q : Sqlite σ} {view : SqliteState σ → τ}

theorem runFrom_command (q : Sqlite σ) (text : String) (s : SqliteState σ) :
    (q.command text).runFrom s = ((q.connection.execute text [] s.connection).1.result,
      { s with connection := (q.connection.execute text [] s.connection).2 }) := rfl

@[simp] theorem store_begin (q : Sqlite σ) : q.store.begin = q.begin := rfl

@[simp] theorem store_commit (q : Sqlite σ) : q.store.commit = q.commit := rfl

@[simp] theorem store_rollback (q : Sqlite σ) : q.store.rollback = q.rollback := rfl

/-- A statement has a parameter that cannot be stored exactly if storing its parameters fails. -/
theorem exists_stored?_eq_none_iff {ps : List Parameter} :
    (∃ p ∈ ps, stored? p = none) ↔ ∃ cause, ps.mapM stored = .error cause := by
  have htold : ps.mapM stored? = (ps.mapM stored).toOption := (Outcome.toOption_mapM stored ps).symm
  rw [← Outcome.mapM_eq_none_iff, htold]
  cases ps.mapM stored <;> simp [Except.toOption]

/-- A statement that looks for indexes. -/
inductive IsLookup : String → Prop where
  | list (table : String) : IsLookup s!"PRAGMA index_list(\"{table}\")"
  | info (name : String) : IsLookup s!"PRAGMA index_info(\"{name}\")"

/-! ## Failures -/

/-- The statements that look for indexes leave what a view shows as it is. -/
def LooksOnly (q : Sqlite σ) (view : SqliteState σ → τ) : Prop :=
  ∀ text, IsLookup text → Keeps view (q.command text)

theorem keeps_covering (h : q.LooksOnly view) (columns names : List String) :
    Keeps view (q.covering columns names) := by
  induction names with
  | nil => exact keeps_pure []
  | cons name names ih =>
      exact (h _ (.info name)).bind fun _ => ih.bind fun _ => keeps_pure _

theorem keeps_uniqueIndexName (h : q.LooksOnly view) (table : String) (columns : List String) :
    Keeps view (q.uniqueIndexName table columns) :=
  (h _ (.list table)).bind fun _ => (keeps_covering h columns _).bind fun _ => keeps_pure _

theorem keeps_violation (h : q.LooksOnly view) (message : String) :
    Keeps view (q.violation message) := by
  unfold violation
  dsimp only
  split
  · exact (keeps_uniqueIndexName h _ _).bind fun _ => keeps_pure _
  · split
    · exact keeps_pure _
    · split
      · exact keeps_pure _
      · split <;> exact keeps_pure _

theorem keeps_failure (h : q.LooksOnly view) (e : ConnectionError) : Keeps view (q.failure e) := by
  unfold failure
  split
  · exact keeps_violation h e.message
  · split <;> exact keeps_pure _

theorem keeps_fail (h : q.LooksOnly view) (e : ConnectionError) :
    Keeps view (q.fail e : Procedure _ _ α) :=
  ((keeps_failure h e).adapt _).bind fun _ => keeps_throw _

/-- To fail is not to succeed. -/
theorem fail_ne_ok (e : ConnectionError) (s : SqliteState σ) (a : α) :
    ((q.fail e).runFrom s).1 ≠ .ok a := by
  rw [fail, runFrom_bind]
  split <;> simp

/-! ## Statements -/

theorem keeps_control (h : q.LooksOnly view) {text : String} (htext : Keeps view (q.command text)) :
    Keeps view (q.control text) := by
  refine htext.attempt.bind fun r => ?_
  cases r with
  | ok _ => exact keeps_pure ()
  | error e => exact keeps_fail h e

/-- A statement leaves what a view shows as it is, whatever its parameters are. -/
def Spares (q : Sqlite σ) (view : SqliteState σ → τ) (text : String) : Prop :=
  ∀ parameters s,
    view { s with connection := (q.connection.execute text parameters s.connection).2 } = view s

theorem keeps_run (h : q.LooksOnly view) {text : String} (htext : q.Spares view text)
    (parameters : List Parameter) (verdict? : Moment → Option StorageError) :
    Keeps view (q.run text parameters verdict?) := by
  refine Keeps.bind (htext parameters) fun reply => ?_
  split
  · exact keeps_pure _
  · split
    · exact keeps_throw _
    · exact keeps_fail h _

/-! ## Deadlines -/

/-- The state in which a statement runs under a deadline: the connection asks for it. -/
def asking (q : Sqlite σ) (d : Deadline) (s : SqliteState σ) : SqliteState σ :=
  { s with
    connection :=
      q.connection.watch q.interval (some fun m => (d.verdict? m).isSome) s.connection }

/-- A call under a deadline is given up before it begins, or its statement runs while the connection
asks for the deadline, which it then no longer does. -/
theorem runFrom_runUnder (q : Sqlite σ) (text : String) (parameters : List Parameter) (d : Deadline)
    (s : SqliteState σ) :
    (q.runUnder text parameters d).runFrom s =
      match d.verdict? (q.connection.moment s.connection) with
      | some reason => (.error (.storage reason), s)
      | none =>
        let ended := (q.run text parameters d.verdict?).runFrom (q.asking d s)
        (ended.1, { ended.2 with connection := q.connection.watch 0 none ended.2.connection }) := by
  simp only [runUnder, runFrom_bind, runFrom_read]
  cases d.verdict? (q.connection.moment s.connection) <;> rfl

theorem keeps_execute (h : q.LooksOnly view)
    (hwatch : ∀ interval question, Keeps view (q.watch interval question)) {st : Statement}
    (htext : q.Spares view st.text) (d : Option Deadline) : Keeps view (q.execute st d) := by
  unfold execute
  split
  · exact keeps_throw _
  · split
    · exact keeps_run h htext _ _
    · refine (keeps_read _).bind fun now => ?_
      split
      · exact keeps_throw _
      · refine (hwatch _ _).bind fun _ => ?_
        refine (keeps_run h htext _ _).attempt.bind fun _ => ?_
        exact (hwatch 0 none).bind fun _ => keeps_ofExcept _

end RecordMapper.Sqlite
