import RecordMapper.Proofs.Outcome
import RecordMapper.Proofs.Store.Depth
import RecordMapper.Proofs.Store.Violation

/-! # Errors of the connection that are not reported

The store of SQLite reports an error of the connection as a failure of the store. Two errors are not
caught: one that arises while a broken unique constraint is looked into, and one of the statement
that takes the work back after the end of a transaction was refused. They leave the store as they
are. -/

namespace RecordMapper

open Procedure

variable {σ ε α : Type}

namespace Sqlite

variable {q : Sqlite σ} {s : SqliteState σ} {e x : ConnectionError}

/-! ## Looking into an error -/

/-- One of several indexes is not described, after those before it are. -/
inductive InfoFails (q : Sqlite σ) : List String → SqliteState σ → ConnectionError → Prop where
  | here {name : String} {names : List String} {s : SqliteState σ} {x : ConnectionError} :
      Fails (q.command s!"PRAGMA index_info(\"{name}\")") s x → InfoFails q (name :: names) s x
  | later {name : String} {names : List String} {s t : SqliteState σ} {x : ConnectionError}
      {info : Cursor} : (q.command s!"PRAGMA index_info(\"{name}\")").runFrom s = (.ok info, t) →
      InfoFails q names t x → InfoFails q (name :: names) s x

theorem not_infoFails_nil : ¬ q.InfoFails [] s x := nofun

theorem fails_covering_iff {columns names : List String} :
    Fails (q.covering columns names) s x ↔ q.InfoFails names s x := by
  induction names generalizing s with
  | nil =>
      rw [covering]
      exact iff_of_false (not_fails_pure _) not_infoFails_nil
  | cons name names ih =>
      rw [covering, fails_bind_iff]
      simp only [fails_bind_iff, ih, not_fails_pure, and_false, exists_false, or_false]
      constructor
      · rintro (h | ⟨info, t, hinfo, h⟩)
        · exact .here h
        · exact .later hinfo h
      · rintro (h | ⟨hinfo, h⟩)
        · exact .inl h
        · exact .inr ⟨_, _, hinfo, h⟩

/-- The indexes of a table are not listed, or one of the unique ones is not described. -/
inductive LookupFails (q : Sqlite σ) (table : String) (s : SqliteState σ) (x : ConnectionError) :
    Prop where
  | list : Fails (q.command s!"PRAGMA index_list(\"{table}\")") s x → LookupFails q table s x
  | info {listed : Cursor} {t : SqliteState σ} :
      (q.command s!"PRAGMA index_list(\"{table}\")").runFrom s = (.ok listed, t) →
      q.InfoFails ((listed.rows.filterMap uniqueIndex?).map nameText) t x → LookupFails q table s x

theorem fails_uniqueIndexName_iff {table : String} {columns : List String} :
    Fails (q.uniqueIndexName table columns) s x ↔ q.LookupFails table s x := by
  rw [uniqueIndexName, fails_bind_iff]
  simp only [fails_bind_iff, fails_covering_iff, not_fails_pure, and_false, exists_false, or_false]
  constructor
  · rintro (h | ⟨listed, t, hlisted, h⟩)
    · exact .list h
    · exact .info hlisted h
  · rintro (h | ⟨hlisted, h⟩)
    · exact .inl h
    · exact .inr ⟨_, _, hlisted, h⟩

/-- The table with the columns that an error says are not unique. -/
def breachedTable? (e : ConnectionError) : Option String :=
  if e.kind = .integrity then
    (Text.lineAfter? uniqueMark.toList e.message.toList).map fun listed =>
      String.ofList (Text.before '.' ((qualifiedColumns listed).headD []))
  else none

/-- An error is that a unique constraint is broken, and to look for its index fails with another
one. -/
def Overtaken (q : Sqlite σ) (e : ConnectionError) (s : SqliteState σ) (x : ConnectionError) : Prop :=
  ∃ table, breachedTable? e = some table ∧ q.LookupFails table s x

theorem fails_violation_iff (hkind : e.kind = .integrity) :
    Fails (q.violation e.message) s x ↔ q.Overtaken e s x := by
  rw [Overtaken, breachedTable?, if_pos hkind, violation, ← uniqueMark]
  dsimp only
  cases Text.lineAfter? uniqueMark.toList e.message.toList with
  | some listed =>
      simp only [fails_bind_iff, fails_uniqueIndexName_iff, not_fails_pure, and_false, exists_false,
        or_false, Option.map_some, Option.some.injEq, exists_eq_left']
  | none =>
      refine iff_of_false ?_ (by simp)
      dsimp only
      repeat' split
      all_goals exact not_fails_pure _

theorem fails_failure_iff : Fails (q.failure e) s x ↔ q.Overtaken e s x := by
  rw [failure]
  by_cases hkind : e.kind = .integrity
  · rw [if_pos hkind, fails_violation_iff hkind]
  · rw [if_neg hkind]
    refine iff_of_false ?_ (by simp [Overtaken, breachedTable?, hkind])
    split <;> exact not_fails_pure _

/-- What a procedure ends with is no failure, a failure of the store, or one of just these errors of
the connection. -/
structure Lets (r : Except StoreFault α) (through : ConnectionError → Prop) : Prop where
  storable : ∀ cause, r ≠ .error (.notStorable cause)
  connection_iff : ∀ x, r = .error (.connection x) ↔ through x

namespace Lets

variable {r : Except StoreFault α} {through through' : ConnectionError → Prop}

theorem of_ok (a : α) (hnone : ∀ x, ¬ through x) : Lets (.ok a) through :=
  ⟨fun _ => nofun, fun x => iff_of_false nofun (hnone x)⟩

theorem of_storage (e : StorageError) (hnone : ∀ x, ¬ through x) :
    Lets (.error (.storage e) : Except StoreFault α) through :=
  ⟨fun _ => nofun, fun x => iff_of_false nofun (hnone x)⟩

theorem of_connection {y : ConnectionError} (hthrough : ∀ x, y = x ↔ through x) :
    Lets (.error (.connection y) : Except StoreFault α) through :=
  ⟨fun _ => nofun, fun x => by simpa using hthrough x⟩

theorem not_through {a : α} (h : Lets (.ok a) through) : ¬ through x :=
  fun hx => nomatch (h.connection_iff x).mpr hx

theorem congr (h : Lets r through) (hthrough : ∀ x, through x ↔ through' x) : Lets r through' :=
  ⟨h.storable, fun x => (h.connection_iff x).trans (hthrough x)⟩

/-- What fails beside that is a failure of the store. -/
theorem cases (h : Lets r through) {f : StoreFault} (hr : r = .error f) :
    (∃ e, f = .storage e) ∨ ∃ x, f = .connection x ∧ through x := by
  cases f with
  | storage e => exact .inl ⟨e, rfl⟩
  | notStorable cause => exact absurd hr (h.storable cause)
  | connection x => exact .inr ⟨x, rfl, (h.connection_iff x).mp hr⟩

/-- What a fault is taken for is a failure of the store or an error that is let through. -/
theorem fault_cases (h : Lets r through) {f : StoreFault} (hr : r = .error f) (fault : StoreFault → ε)
    {slips : ConnectionError → Prop} (hslips : ∀ x, through x → slips x) :
    (∃ e, fault f = fault (.storage e)) ∨ ∃ x, slips x ∧ fault f = fault (.connection x) := by
  rcases h.cases hr with ⟨e, rfl⟩ | ⟨x, rfl, hx⟩
  · exact .inl ⟨e, rfl⟩
  · exact .inr ⟨x, hslips x hx, rfl⟩

end Lets

theorem lets_fail (q : Sqlite σ) (e : ConnectionError) (s : SqliteState σ) :
    Lets ((q.fail e : Procedure _ _ α).runFrom s).1 (q.Overtaken e s) := by
  have hiff : ∀ x, ((q.failure e).runFrom s).1 = .error x ↔ q.Overtaken e s x :=
    fun _ => fails_failure_iff
  rw [fail, runFrom_bind, runFrom_adapt]
  rcases h : (q.failure e).runFrom s with ⟨y | failure, t⟩ <;> rw [h] at hiff
  · exact .of_connection fun x => by simpa using hiff x
  · exact .of_storage failure fun x => by simpa using hiff x

/-! ## Statements -/

theorem lets_run (q : Sqlite σ) (text : String) (parameters : List Parameter)
    (verdict? : Moment → Option StorageError) (s : SqliteState σ) :
    Lets ((q.run text parameters verdict?).runFrom s).1 fun x => ∃ asked e t,
      q.connection.execute text parameters s.connection = (⟨asked, .error e⟩, t) ∧
        asked.findSome? verdict? = none ∧ q.Overtaken e ⟨t, s.depth⟩ x := by
  rcases hreply : q.connection.execute text parameters s.connection with ⟨⟨asked, e | cursor⟩, t⟩
  · cases hverdict : asked.findSome? verdict? with
    | some reason =>
        simp only [run, runFrom_bind, runFrom_ofFunction, onConnection, hreply, hverdict]
        refine .of_storage reason ?_
        rintro x ⟨_, _, _, h, hnone, -⟩
        cases h
        cases hnone.symm.trans hverdict
    | none =>
        rw [runFrom_run_of_error hreply hverdict]
        refine (q.lets_fail e _).congr fun x => ⟨fun h => ⟨_, _, _, rfl, hverdict, h⟩, ?_⟩
        rintro ⟨_, _, _, h, -, hx⟩
        cases h
        exact hx
  · simp only [run, runFrom_bind, runFrom_ofFunction, onConnection, hreply]
    refine .of_ok (rowsOf cursor) ?_
    rintro x ⟨_, _, _, h, -⟩
    cases h

/-- A statement whose parameters can be stored lets an error through if it fails and looking into
the failure ends with that error. -/
theorem lets_execute {st : Statement} {parameters : List Parameter}
    (hstored : st.parameters.mapM stored = .ok parameters) (d : Option Deadline)
    (s : SqliteState σ) :
    Lets ((q.execute st d).runFrom s).1 fun x =>
      ∃ e t, q.FailsWith st s e t d ∧ q.Overtaken e ⟨t, s.depth⟩ x := by
  simp only [execute, hstored]
  cases d with
  | none =>
      refine (q.lets_run _ _ _ s).congr fun x => ⟨?_, ?_⟩
      · rintro ⟨asked, e, t, hreply, -, hx⟩
        exact ⟨e, t, .unlimited hstored hreply, hx⟩
      · rintro ⟨e, t, hfails, hx⟩
        cases hfails with
        | unlimited hstored' hreply =>
            cases hstored.symm.trans hstored'
            exact ⟨_, e, t, hreply, List.findSome?_eq_none_iff.mpr fun _ _ => rfl, hx⟩
  | some d =>
      dsimp only
      rw [runFrom_runUnder]
      cases hnow : d.verdict? (q.connection.moment s.connection) with
      | some reason =>
          refine .of_storage reason ?_
          rintro x ⟨e, t, hfails, -⟩
          cases hfails with
          | limited _ hnow' => cases hnow.symm.trans hnow'
      | none =>
          refine (q.lets_run _ _ _ _).congr fun x => ⟨?_, ?_⟩
          · rintro ⟨asked, e, t, hreply, hverdict, hx⟩
            exact ⟨e, t, .limited hstored hnow hreply hverdict, hx⟩
          · rintro ⟨e, t, hfails, hx⟩
            cases hfails with
            | limited hstored' _ hreply hverdict =>
                cases hstored.symm.trans hstored'
                exact ⟨_, e, t, hreply, hverdict, hx⟩

/-! ## Statements that control transactions -/

/-- A statement of control is refused, and looking into its error fails. -/
inductive ControlSlips (q : Sqlite σ) (text : String) (s : SqliteState σ) (x : ConnectionError) :
    Prop where
  | refused {e : ConnectionError} {t : SqliteState σ} :
      (q.command text).runFrom s = (.error e, t) → q.Overtaken e t x → ControlSlips q text s x

theorem lets_control (q : Sqlite σ) (text : String) (s : SqliteState σ) :
    Lets ((q.control text).runFrom s).1 (q.ControlSlips text s) := by
  rw [control, runFrom_bind, runFrom_attempt]
  rcases hreply : (q.command text).runFrom s with ⟨e | cursor, t⟩
  · refine (q.lets_fail e t).congr fun x => ⟨.refused hreply, ?_⟩
    rintro ⟨h, hx⟩
    cases hreply.symm.trans h
    exact hx
  · refine .of_ok () ?_
    rintro x ⟨h, -⟩
    cases hreply.symm.trans h

/-- The error of the end of the outermost transaction leaves the store. The end is refused, and then
its work is not taken back although the transaction is open, or looking into the error fails. -/
inductive EndSlips (q : Sqlite σ) (s : SqliteState σ) (x : ConnectionError) : Prop where
  | rollback {e : ConnectionError} {t : SqliteState σ} :
      (q.command "COMMIT").runFrom s = (.error e, t) →
      q.connection.inTransaction t.connection = true → Fails (q.command "ROLLBACK") t x →
      EndSlips q s x
  | back {e : ConnectionError} {t u : SqliteState σ} {c : Cursor} :
      (q.command "COMMIT").runFrom s = (.error e, t) →
      q.connection.inTransaction t.connection = true →
      (q.command "ROLLBACK").runFrom t = (.ok c, u) → q.Overtaken e u x → EndSlips q s x
  | closed {e : ConnectionError} {t : SqliteState σ} :
      (q.command "COMMIT").runFrom s = (.error e, t) →
      q.connection.inTransaction t.connection = false → q.Overtaken e t x → EndSlips q s x

theorem lets_commitOutermost (q : Sqlite σ) (s : SqliteState σ) :
    Lets (q.commitOutermost.runFrom s).1 (q.EndSlips s) := by
  rw [commitOutermost, runFrom_bind, runFrom_attempt]
  rcases hreply : (q.command "COMMIT").runFrom s with ⟨e | cursor, t⟩
  · simp only [runFrom_bind, runFrom_read]
    cases hopen : q.connection.inTransaction t.connection with
    | false =>
        refine (q.lets_fail e t).congr fun x => ⟨.closed hreply hopen, ?_⟩
        rintro (⟨h, hopen', -⟩ | ⟨h, hopen', -⟩ | ⟨h, -, hx⟩) <;> cases hreply.symm.trans h
        · cases hopen.symm.trans hopen'
        · cases hopen.symm.trans hopen'
        · exact hx
    | true =>
        rw [if_pos rfl, runFrom_bind, runFrom_adapt]
        rcases hback : (q.command "ROLLBACK").runFrom t with ⟨y | c, u⟩
        · refine .of_connection fun x => ⟨?_, ?_⟩
          · rintro rfl
            exact .rollback hreply hopen (by rw [Fails, hback])
          · rintro (⟨h, -, hx⟩ | ⟨h, -, h', -⟩ | ⟨h, hopen', -⟩) <;> cases hreply.symm.trans h
            · rw [Fails, hback] at hx
              cases hx
              rfl
            · cases hback.symm.trans h'
            · cases hopen.symm.trans hopen'
        · refine (q.lets_fail e u).congr fun x => ⟨.back hreply hopen hback, ?_⟩
          rintro (⟨h, -, hx⟩ | ⟨h, -, h', hx⟩ | ⟨h, hopen', -⟩) <;> cases hreply.symm.trans h
          · exact absurd hx (not_fails_of_runFrom hback)
          · cases hback.symm.trans h'
            exact hx
          · cases hopen.symm.trans hopen'
  · refine .of_ok () ?_
    rintro x (⟨h, -⟩ | ⟨h, -⟩ | ⟨h, -⟩) <;> cases hreply.symm.trans h

theorem lets_begin (q : Sqlite σ) (s : SqliteState σ) :
    Lets (q.begin.runFrom s).1 (q.ControlSlips (beginText s.depth) s) := by
  have hcontrol := q.lets_control (beginText s.depth) s
  rw [runFrom_begin]
  rcases hr : (q.control (beginText s.depth)).runFrom s with ⟨f | _, t⟩ <;> rw [hr] at hcontrol
  · exact hcontrol
  · exact hcontrol

/-- The error of the end of a transaction that succeeded leaves the store. -/
inductive CommitSlips (q : Sqlite σ) (s : SqliteState σ) (x : ConnectionError) : Prop where
  | outermost : s.depth - 1 = 0 → q.EndSlips { s with depth := s.depth - 1 } x → CommitSlips q s x
  | inner : s.depth - 1 ≠ 0 →
      q.ControlSlips s!"RELEASE SAVEPOINT {savepoint (s.depth - 1)}" { s with depth := s.depth - 1 }
        x → CommitSlips q s x

theorem lets_commit (q : Sqlite σ) (s : SqliteState σ) :
    Lets (q.commit.runFrom s).1 (q.CommitSlips s) := by
  rw [runFrom_commit]
  by_cases hdepth : s.depth - 1 = 0
  · rw [if_pos hdepth]
    refine (q.lets_commitOutermost _).congr fun x => ⟨.outermost hdepth, ?_⟩
    rintro (⟨-, hx⟩ | ⟨hinner, -⟩)
    · exact hx
    · exact absurd hdepth hinner
  · rw [if_neg hdepth]
    refine (q.lets_control _ _).congr fun x => ⟨.inner hdepth, ?_⟩
    rintro (⟨houter, -⟩ | ⟨-, hx⟩)
    · exact absurd houter hdepth
    · exact hx

/-- The error of the end of a transaction that failed leaves the store. -/
inductive RollbackSlips (q : Sqlite σ) (s : SqliteState σ) (x : ConnectionError) : Prop where
  | outermost : s.depth - 1 = 0 → q.ControlSlips "ROLLBACK" { s with depth := s.depth - 1 } x →
      RollbackSlips q s x
  | inner : s.depth - 1 ≠ 0 →
      q.ControlSlips s!"ROLLBACK TO SAVEPOINT {savepoint (s.depth - 1)}"
        { s with depth := s.depth - 1 } x → RollbackSlips q s x
  | release {t : SqliteState σ} : s.depth - 1 ≠ 0 →
      (q.control s!"ROLLBACK TO SAVEPOINT {savepoint (s.depth - 1)}").runFrom
        { s with depth := s.depth - 1 } = (.ok (), t) →
      q.ControlSlips s!"RELEASE SAVEPOINT {savepoint (s.depth - 1)}" t x → RollbackSlips q s x

theorem lets_rollback (q : Sqlite σ) (s : SqliteState σ) :
    Lets (q.rollback.runFrom s).1 (q.RollbackSlips s) := by
  rw [runFrom_rollback]
  by_cases hdepth : s.depth - 1 = 0
  · rw [if_pos hdepth]
    refine (q.lets_control _ _).congr fun x => ⟨.outermost hdepth, ?_⟩
    rintro (⟨-, hx⟩ | ⟨hinner, -⟩ | ⟨hinner, -⟩)
    · exact hx
    · exact absurd hdepth hinner
    · exact absurd hdepth hinner
  · rw [if_neg hdepth, runFrom_bind]
    have hreturn := q.lets_control s!"ROLLBACK TO SAVEPOINT {savepoint (s.depth - 1)}"
      { s with depth := s.depth - 1 }
    rcases hr : (q.control s!"ROLLBACK TO SAVEPOINT {savepoint (s.depth - 1)}").runFrom
        { s with depth := s.depth - 1 } with ⟨f | _, t⟩ <;> rw [hr] at hreturn
    · refine Lets.congr (r := .error f) ⟨hreturn.storable, hreturn.connection_iff⟩
        fun x => ⟨.inner hdepth, ?_⟩
      rintro (⟨houter, -⟩ | ⟨-, hx⟩ | ⟨-, hok, -⟩)
      · exact absurd houter hdepth
      · exact hx
      · cases hr.symm.trans hok
    · refine (q.lets_control _ t).congr fun x => ⟨.release hdepth hr, ?_⟩
      rintro (⟨houter, -⟩ | ⟨-, hx⟩ | ⟨-, hok, hx⟩)
      · exact absurd houter hdepth
      · exact absurd hx hreturn.not_through
      · cases hr.symm.trans hok
        exact hx

/-! ## Blocks -/

/-- An error of the connection leaves a block, and it is none of the body: the transaction is not
begun, or the work of the body is neither kept nor taken back. -/
inductive BlockSlips (q : Sqlite σ) (body : Procedure (SqliteState σ) ε α) (s : SqliteState σ)
    (x : ConnectionError) : Prop where
  | begin : q.ControlSlips (beginText s.depth) s x → BlockSlips q body s x
  | commit {t u : SqliteState σ} {a : α} : q.begin.runFrom s = (.ok (), t) →
      body.runFrom t = (.ok a, u) → q.CommitSlips u x → BlockSlips q body s x
  | rollback {t u : SqliteState σ} {y : ε} : q.begin.runFrom s = (.ok (), t) →
      body.runFrom t = (.error y, u) → q.RollbackSlips u x → BlockSlips q body s x

/-- What a block fails with is the error of its body, a failure of the store, or an error of the
connection that slips through. -/
theorem fails_transaction_cases (q : Sqlite σ) {fault : StoreFault → ε}
    {body : Procedure (SqliteState σ) ε α} {y : ε}
    (h : Fails (q.store.transaction fault body) s y) :
    (∃ t, q.begin.runFrom s = (.ok (), t) ∧ Fails body t y) ∨ (∃ e, y = fault (.storage e)) ∨
      ∃ x, q.BlockSlips body s x ∧ y = fault (.connection x) := by
  rw [Fails, Store.runFrom_transaction, store_begin, store_commit, store_rollback] at h
  rcases hbegin : q.begin.runFrom s with ⟨f | _, t⟩ <;> rw [hbegin] at h
  · cases h
    exact .inr ((q.lets_begin s).fault_cases (congrArg Prod.fst hbegin) fault fun _ => .begin)
  · rcases hbody : body.runFrom t with ⟨d | a, u⟩ <;> simp only [hbody] at h
    · rcases hend : q.rollback.runFrom u with ⟨f | _, v⟩ <;> rw [hend] at h
      · cases h
        exact .inr ((q.lets_rollback u).fault_cases (congrArg Prod.fst hend) fault
          fun _ => .rollback hbegin hbody)
      · exact .inl ⟨t, rfl, by rw [Fails, hbody]; exact h⟩
    · rcases hend : q.commit.runFrom u with ⟨f | _, v⟩ <;> rw [hend] at h
      · cases h
        exact .inr ((q.lets_commit u).fault_cases (congrArg Prod.fst hend) fault
          fun _ => .commit hbegin hbody)
      · cases h

/-- What slips through a block is what the block fails with. -/
theorem fails_transaction_of_blockSlips {fault : StoreFault → ε}
    {body : Procedure (SqliteState σ) ε α} (h : q.BlockSlips body s x) :
    Fails (q.store.transaction fault body) s (fault (.connection x)) := by
  rw [Fails, Store.runFrom_transaction, store_begin, store_commit, store_rollback]
  cases h with
  | begin hx =>
      have hfails := ((q.lets_begin s).connection_iff x).mpr hx
      rcases hbegin : q.begin.runFrom s with ⟨f | _, t⟩ <;> rw [hbegin] at hfails <;> cases hfails
      rfl
  | @commit t u a hbegin hbody hx =>
      have hfails := ((q.lets_commit u).connection_iff x).mpr hx
      rcases hend : q.commit.runFrom u with ⟨f | _, v⟩ <;> rw [hend] at hfails <;> cases hfails
      simp only [hbegin, hbody, hend]
  | @rollback t u y hbegin hbody hx =>
      have hfails := ((q.lets_rollback u).connection_iff x).mpr hx
      rcases hend : q.rollback.runFrom u with ⟨f | _, v⟩ <;> rw [hend] at hfails <;> cases hfails
      simp only [hbegin, hbody, hend]

/-- When the store fails with something else than a failure of the store. A statement does with a
parameter that cannot be stored, and otherwise if it fails without being told to give up and looking
into its error fails. A block does, apart from its body, if its beginning or end is refused and
looking into that error fails, or if its work is not taken back after its end was refused. -/
theorem slips_iff (q : Sqlite σ) (st : Statement) (d : Option Deadline) (fault : StoreFault → ε)
    (body : Procedure (SqliteState σ) ε α) (s : SqliteState σ) :
    ((∃ cause, Fails (q.execute st d) s (.notStorable cause)) ↔
        ∃ p ∈ st.parameters, stored? p = none) ∧
      (∀ x, Fails (q.execute st d) s (.connection x) ↔
        ∃ e t, q.FailsWith st s e t d ∧ q.Overtaken e ⟨t, s.depth⟩ x) ∧
      (∀ y, Fails (q.store.transaction fault body) s y →
        (∃ t, q.begin.runFrom s = (.ok (), t) ∧ Fails body t y) ∨ (∃ e, y = fault (.storage e)) ∨
          ∃ x, q.BlockSlips body s x ∧ y = fault (.connection x)) ∧
      ∀ x, q.BlockSlips body s x →
        Fails (q.store.transaction fault body) s (fault (.connection x)) := by
  refine ⟨?_, fun x => ?_, fun y => q.fails_transaction_cases,
    fun x => fails_transaction_of_blockSlips⟩
  · rw [exists_stored?_eq_none_iff]
    cases hstored : st.parameters.mapM stored with
    | error cause => exact iff_of_true ⟨cause, by simp [execute, hstored]⟩ ⟨cause, rfl⟩
    | ok parameters =>
        refine iff_of_false ?_ (by simp)
        rintro ⟨cause, hfails⟩
        exact (q.lets_execute hstored d s).storable cause hfails
  · cases hstored : st.parameters.mapM stored with
    | error cause =>
        refine iff_of_false (by simp [execute, hstored]) ?_
        rintro ⟨e, t, hfails, -⟩
        cases hfails with
        | unlimited hstored' => cases hstored.symm.trans hstored'
        | limited hstored' => cases hstored.symm.trans hstored'
    | ok parameters => exact (q.lets_execute hstored d s).connection_iff x

/-- A connection to a file that cannot be read or written any more: a transaction can be begun, and
what is left of the indexes tells that a name is taken. -/
def worn : Connection Unit where
  moment _ := ⟨.whole 0, false⟩
  execute text _ s :=
    let result :=
      if text = "BEGIN" then .ok .empty
      else if text = "INSERT INTO \"users\" (\"name\") VALUES ('ada')" then
        .error ⟨.integrity, "UNIQUE constraint failed: users.name"⟩
      else .error ⟨.operational, "disk I/O error"⟩
    (⟨[], result⟩, s)
  script _ s := (⟨[], .ok .empty⟩, s)
  inTransaction _ := true
  watch _ _ s := s
  close s := s

/-- The error of a look-up of indexes, and that of taking work back, are no failures of the
store. -/
theorem slips_iff_worn :
    let q : Sqlite Unit := ⟨worn, defaultInterval⟩
    let insert : Statement := ⟨"INSERT INTO \"users\" (\"name\") VALUES ('ada')", [], [], none⟩
    let x : ConnectionError := ⟨.operational, "disk I/O error"⟩
    Fails (q.execute insert none) ⟨(), 0⟩ (.connection x) ∧
      Fails (q.store.transaction id (pure ())) ⟨(), 0⟩ (.connection x) := by
  intro q insert x
  obtain ⟨-, hexecute, -, hblock⟩ := q.slips_iff insert none id (pure ()) ⟨(), 0⟩
  have hfails : q.FailsWith insert ⟨(), 0⟩ ⟨.integrity, "UNIQUE constraint failed: users.name"⟩ ()
      none := .unlimited rfl rfl
  have hovertaken : q.Overtaken ⟨.integrity, "UNIQUE constraint failed: users.name"⟩ ⟨(), 0⟩ x :=
    ⟨"users", by decide, .list rfl⟩
  have hend : q.EndSlips ⟨(), 0⟩ x := .rollback (t := ⟨(), 0⟩) rfl rfl rfl
  exact ⟨(hexecute x).mpr ⟨_, _, hfails, hovertaken⟩,
    hblock x (.commit (t := ⟨(), 1⟩) (u := ⟨(), 1⟩) rfl rfl (.outermost rfl hend))⟩

end Sqlite

end RecordMapper
