import RecordMapper.Proofs.Repo.Sending
import RecordMapper.Proofs.Store.Script

/-! # Which constraint a violation is blamed on

A broken unique constraint has the name of an index that covers its columns, and is blamed on the
declared constraint of this name. Where no index covers them there is no name, and it is blamed on
the only unique constraint that is declared, whatever that one is about. -/

namespace RecordMapper

open Sqlite (IsPlain coveringName uniqueMessage)

/-- The error of the field of a constraint that is violated. -/
def Constraint.violated (k : Constraint) : FieldError :=
  ⟨k.field, k.message, .constraint, some k.kind.name, [("constraint", .string k.name)]⟩

namespace Changeset

variable {c : Changeset} {k : Constraint} {message : Option String}

/-! ## The declared constraint of a violation -/

/-- The declared unique constraints. -/
def uniqueConstraints (c : Changeset) : List Constraint :=
  c.constraints.filter fun k => k.kind = .unique

theorem kindName_beq_unique (k : Constraint) :
    (k.kind.name == "unique") = decide (k.kind = .unique) := by
  cases k.kind <;> decide

theorem isViolatedBy_unique_iff {name : Option String} :
    k.isViolatedBy (.violation name (some "unique") message) = true ↔
      name = some k.name ∧ k.kind = .unique := by
  have hkind : ("unique" == k.kind.name) = decide (k.kind = .unique) := by
    rw [← kindName_beq_unique, Bool.beq_comm]
  simp only [Constraint.isViolatedBy, StorageError.violation, StorageError.isViolation, hkind,
    decide_true, Bool.true_and, Bool.and_eq_true, beq_iff_eq, decide_eq_true_eq]

/-- A violation with a name is one of a declared constraint with this name. -/
theorem constraintFor?_named {name : String}
    (h : c.constraintFor? (.violation (some name) (some "unique") message) = some k) :
    k ∈ c.uniqueConstraints ∧ k.name = name := by
  unfold constraintFor? at h
  split at h
  · rename_i found hfound
    cases h
    have hviolated := List.find?_some hfound
    obtain ⟨hname, hkind⟩ := isViolatedBy_unique_iff.mp hviolated
    refine ⟨List.mem_filter.mpr ⟨List.mem_of_find?_eq_some hfound, ?_⟩, ?_⟩
    · simpa using hkind
    · exact (Option.some.inj hname).symm
  · simp [StorageError.violation] at h

/-- A violation without a name is one of the only declared constraint. -/
theorem constraintFor?_unnamed_iff :
    c.constraintFor? (.violation none (some "unique") message) = some k ↔
      c.uniqueConstraints = [k] := by
  have hnone : c.constraints.find? (·.isViolatedBy (.violation none (some "unique") message)) =
      none := by
    refine List.find?_eq_none.mpr fun k _ hviolated => ?_
    cases (isViolatedBy_unique_iff.mp hviolated).1
  have hunique : c.constraints.filter (fun k => k.kind.name == "unique") = c.uniqueConstraints :=
    List.filter_congr fun k _ => kindName_beq_unique k
  unfold constraintFor?
  rw [hnone]
  simp only [StorageError.violation, StorageError.isViolation, decide_true, hunique]
  split <;> simp_all

/-- A broken unique constraint is a declared one with the name of a covering index, or without any
such index the only declared one. -/
theorem covers_of_constraintFor? {indexes : List Index} {columns : List String}
    (h : c.constraintFor? (.violation (coveringName indexes columns) (some "unique") message) =
      some k) :
    k ∈ c.uniqueConstraints ∧
      ((∃ i ∈ indexes, i.Covers columns ∧ i.name = k.name) ∨
        (∀ i ∈ indexes, ¬ i.Covers columns) ∧ c.uniqueConstraints = [k]) := by
  cases hname : coveringName indexes columns with
  | some name =>
      rw [hname] at h
      obtain ⟨hk, rfl⟩ := constraintFor?_named h
      exact ⟨hk, .inl (Sqlite.covers_of_coveringName_eq_some hname)⟩
  | none =>
      rw [hname] at h
      have honly := constraintFor?_unnamed_iff.mp h
      have hk : k ∈ c.uniqueConstraints := honly ▸ List.mem_cons_self
      exact ⟨hk, .inr ⟨Sqlite.not_covers_of_coveringName_eq_none hname, honly⟩⟩

theorem constraintFor?_of_not_covers {indexes : List Index} {columns : List String}
    (hindexes : ∀ i ∈ indexes, ¬ i.Covers columns) (honly : c.uniqueConstraints = [k]) :
    c.constraintFor? (.violation (coveringName indexes columns) (some "unique") message) =
      some k := by
  cases hname : coveringName indexes columns with
  | some name =>
      obtain ⟨i, hi, hcovers, -⟩ := Sqlite.covers_of_coveringName_eq_some hname
      exact absurd hcovers (hindexes i hi)
  | none => exact constraintFor?_unnamed_iff.mpr honly

end Changeset

namespace Repo

variable {σ : Type}

/-! ## The end of a submission -/

theorem refused_of_isValid {c : Changeset} (hvalid : c.isValid = true) (e : StorageError) :
    refused c (.store (.storage e)) =
      match c.constraintFor? e with
      | some k => .ok ⟨none, { c with errors := [k.violated] }⟩
      | none => .error (.store (.storage e)) := by
  have hnone : c.errors = [] := List.isEmpty_iff.mp hvalid
  rw [refused, Changeset.addViolation?]
  cases c.constraintFor? e <;> simp [Changeset.addError, hnone, Constraint.violated]

/-- When the store fails with what is sent, its failure is answered. -/
theorem submit_of_sent {repo : Repo σ} {call : Option Action} {c : Changeset}
    {own d : Option Deadline} {compiler : Compiler} {s : σ} {st : Statement} {fault : StoreFault}
    (hsent : st ∈ repo.sent call c own compiler s)
    (hdeadline : repo.deadlineOf own (repo.store.moment s) = .ok d)
    (hfails : ((repo.store.execute st d).runFrom s).1 = .error fault) :
    c.isValid = true ∧
      ((repo.submit call c own).runFrom ⟨compiler, s⟩).1 =
        refused (c.submittedFor (call.getD c.intendedAction)) (.store fault) := by
  obtain ⟨-, x, hprepared, rfl⟩ := (repo.mem_sent_iff call c own compiler s st).mp hsent
  have hvalid := isValid_of_prepare_ne fun hsettled => nomatch hprepared.symm.trans hsettled
  refine ⟨hvalid, ?_⟩
  rw [submit_eq, runFrom_submit]
  simp only [hprepared, proceed_inr, runFrom_send, hdeadline, hfails, answered]

/-- A broken unique constraint is blamed on a declared one with the name of a covering index, or
without any such index on the only declared one; otherwise the failure of the store is given back.
If no declared constraint has the name of a covering index, it is blamed on one exactly if no index
covers the columns and only one is declared. -/
theorem blame_submit (q : Sqlite σ) (registry : Registry) (timeout : Value) (call : Option Action)
    (c : Changeset) (own : Option Deadline) (compiler : Compiler) (s : SqliteState σ)
    {st : Statement} {d : Option Deadline} {t : σ} {table : String} {columns : List String}
    {indexes : List Index}
    (hsent : st ∈ (Repo.mk q.store registry timeout).sent call c own compiler s)
    (hdeadline : (Repo.mk q.store registry timeout).deadlineOf own (q.store.moment s) = .ok d)
    (hfails : q.FailsWith st s ⟨.integrity, uniqueMessage table columns⟩ t d)
    (hreports : q.connection.Reports table indexes t) (htable : IsPlain table)
    (hcolumns : ∀ name ∈ columns, IsPlain name) (hne : columns ≠ []) :
    let submitted := c.submittedFor (call.getD c.intendedAction)
    let result := (((Repo.mk q.store registry timeout).submit call c own).runFrom ⟨compiler, s⟩).1
    (∀ k, result = .ok k → ∃ constraint ∈ c.uniqueConstraints,
      k = ⟨none, { submitted with errors := [constraint.violated] }⟩ ∧
        ((∃ i ∈ indexes, i.Covers columns ∧ i.name = constraint.name) ∨
          (∀ i ∈ indexes, ¬ i.Covers columns) ∧ c.uniqueConstraints = [constraint])) ∧
      (∀ e, result = .error e → e = .store (.storage (.violation (coveringName indexes columns)
        (some "unique") (some (uniqueMessage table columns))))) ∧
      ((∀ constraint ∈ c.uniqueConstraints, ∀ i ∈ indexes, i.Covers columns →
          i.name ≠ constraint.name) →
        ((∃ k, result = .ok k) ↔
          (∀ i ∈ indexes, ¬ i.Covers columns) ∧ ∃ k, c.uniqueConstraints = [k])) := by
  intro submitted result
  have hstore := Sqlite.runFrom_execute_of_unique hreports htable hcolumns hne hfails
  obtain ⟨hvalid, hsubmit⟩ := submit_of_sent hsent hdeadline hstore
  have hresult : result = _ := hsubmit.trans (refused_of_isValid (c := submitted) hvalid _)
  clear_value result
  cases hfor : submitted.constraintFor? (.violation (coveringName indexes columns) (some "unique")
      (some (uniqueMessage table columns))) with
  | some k =>
      rw [hfor] at hresult
      subst hresult
      obtain ⟨hk, hblamed⟩ := Changeset.covers_of_constraintFor? hfor
      refine ⟨?_, nofun, ?_⟩
      · intro commit hcommit
        cases hcommit
        exact ⟨k, hk, rfl, hblamed⟩
      · intro hnone
        refine iff_of_true ⟨_, rfl⟩ ?_
        rcases hblamed with ⟨i, hi, hcovers, hname⟩ | ⟨hindexes, honly⟩
        · exact absurd hname (hnone k hk i hi hcovers)
        · exact ⟨hindexes, k, honly⟩
  | none =>
      rw [hfor] at hresult
      subst hresult
      refine ⟨nofun, ?_, ?_⟩
      · intro e he
        cases he
        rfl
      · intro _
        refine iff_of_false nofun ?_
        rintro ⟨hindexes, k, honly⟩
        have hsome : submitted.constraintFor? (.violation (coveringName indexes columns)
            (some "unique") (some (uniqueMessage table columns))) = some k :=
          Changeset.constraintFor?_of_not_covers hindexes honly
        cases hfor.symm.trans hsome

/-- A second record with a key that is taken: no index covers the key, and the violation is blamed
on the name, the only field with a unique constraint. -/
theorem blame_submit_key :
    let schema : Descriptor := ⟨"User", "users",
      [⟨"id", .id, false, .null, true⟩, ⟨"username", .string, false, .null, false⟩], [], "id",
      by decide, by decide⟩
    let taken : Constraint := ⟨.unique, "username", "unique_usernames", "has already been taken"⟩
    let c : Changeset := { Changeset.start ⟨schema, [], .built⟩ with
      changes := [("id", .int 1), ("username", .string "ada")], constraints := [taken] }
    let names : Index := ⟨"unique_usernames", .int 1, [.string "username"]⟩
    let scene : Scene :=
      ⟨0, .whole 0, none, some ⟨.integrity, "UNIQUE constraint failed: users.id"⟩, .empty⟩
    let s : Script := (Script.start ⟨.whole 0, false⟩ [] [("users", [names])]).push scene
    let repo := Repo.mk (Sqlite.mk Script.connection Sqlite.defaultInterval).store .empty .null
    ¬ names.Covers ["id"] ∧
      ((repo.submit none c none).runFrom ⟨.new none .sqlite 512, ⟨s, 0⟩⟩).1 =
        .ok ⟨none, { c.submittedFor .insert with errors := [taken.violated] }⟩ := by
  intro schema taken c names scene s repo
  have hcovers : ¬ names.Covers ["id"] := by
    simp [names, Index.Covers]
  have happlied : c.apply =
      .ok ⟨schema, [("id", .int 1), ("username", .string "ada")], .built⟩ := rfl
  have hwrites := Changeset.Writes.insert (d := .sqlite) happlied
  have hfilled : Changeset.filledFields c.schema
      ⟨schema, [("id", .int 1), ("username", .string "ada")], .built⟩ = c.schema.fields := by
    rfl
  have htext : c.schema.insertionText .sqlite (c.schema.fields.map Field.name) =
      "INSERT INTO \"users\" (\"id\", \"username\") VALUES (?, ?) " ++
        "RETURNING \"id\", \"username\"" := by
    decide
  rw [hfilled, htext] at hwrites
  obtain ⟨x, hx, hst⟩ := prepare_of_writes (c := c.submittedFor .insert) rfl
    (Changeset.writes_submittedFor_iff.mpr hwrites)
  have hsent := (repo.mem_sent_iff none c none (.new none .sqlite 512) ⟨s, 0⟩ _).mpr
    ⟨⟨none, rfl⟩, x, hx, hst⟩
  have hmessage : uniqueMessage "users" ["id"] = "UNIQUE constraint failed: users.id" := by
    decide
  have hreply : ∃ t : Script, t.obstacles = [] ∧ t.indexes = [("users", [names])] ∧
      Script.connection.execute ("INSERT INTO \"users\" (\"id\", \"username\") VALUES (?, ?) " ++
        "RETURNING \"id\", \"username\"") [.value (.int 1), .value (.string "ada")] s =
          (⟨[], .error ⟨.integrity, "UNIQUE constraint failed: users.id"⟩⟩, t) :=
    ⟨_, rfl, rfl, rfl⟩
  obtain ⟨t, hobstacles, hindexes, hreply⟩ := hreply
  rw [← hmessage] at hreply
  have hreports : Script.connection.Reports "users" [names] t := by
    refine Script.reports hobstacles (hindexes ▸ rfl) ?_
    simp [hindexes]
  have hblame := blame_submit _ .empty .null none c none (.new none .sqlite 512) ⟨s, 0⟩ hsent rfl
    (.unlimited rfl hreply) hreports (by decide) (by decide) (List.cons_ne_nil _ _)
  obtain ⟨hblamed, -, hwhen⟩ := hblame
  have hother : ∀ k ∈ c.uniqueConstraints, ∀ i ∈ [names], i.Covers ["id"] → i.name ≠ k.name := by
    intro k _ i hi hid
    exact absurd (List.mem_singleton.mp hi ▸ hid) hcovers
  have honly : c.uniqueConstraints = [taken] := rfl
  have hnone : ∀ i ∈ [names], ¬ i.Covers ["id"] := by simpa using hcovers
  obtain ⟨commit, hcommit⟩ := (hwhen hother).mpr ⟨hnone, taken, honly⟩
  obtain ⟨k, hk, rfl, -⟩ := hblamed commit hcommit
  rw [honly, List.mem_singleton] at hk
  exact ⟨hcovers, hk ▸ hcommit⟩

end Repo

end RecordMapper
