import RecordMapper.Proofs.Repo.Discipline
import RecordMapper.Proofs.Row
import RecordMapper.Proofs.Schema.Fields
import RecordMapper.Proofs.Sql.RecordText
import RecordMapper.Store.Replay

/-! # The statement that a commit sends

A new record is stored with the values that it has, a changed one with the values that are staged,
and a removed one is found by its key. -/

namespace RecordMapper

/-! ## Values of stored fields -/

namespace Descriptor

variable (s : Descriptor)

theorem field_of_mem_storedNames {name : String} (h : name ∈ s.storedNames) :
    ∃ f, s.field name = .ok f := by
  obtain ⟨f, hf, hname⟩ := List.mem_map.mp h
  exact ⟨f, field_eq_ok_iff.mpr ⟨(List.mem_filter.mp hf).1, hname⟩⟩

/-- Values of stored fields are put into the order of the fields. -/
theorem storedValues_eq {values : Row Value} (h : ∀ name ∈ values.keys, name ∈ s.storedNames) :
    s.storedValues values = .ok ((s.stored.filter fun f => values.has f.name).map fun f =>
      (f.name, (values.find? f.name).getD .null)) := by
  have hfields : ∃ fs, values.keys.mapM s.field = .ok fs :=
    Outcome.succeeds_mapM_iff.mpr fun name hname => s.field_of_mem_storedNames (h name hname)
  obtain ⟨fs, hfs⟩ := hfields
  have hpicked : (s.storedNames.filterMap fun n => (values.find? n).map fun v => (n, v)) =
      (s.stored.filter fun f => values.has f.name).map fun f =>
        (f.name, (values.find? f.name).getD .null) := by
    rw [storedNames]
    induction s.stored with
    | nil => rfl
    | cons f fields ih => cases hv : values.find? f.name <;> simp_all [Row.has]
  rw [storedValues, hfs, ← hpicked]
  rfl

end Descriptor

namespace Changeset

/-- The stored fields that have a value in an entity. -/
def filledFields (schema : Descriptor) (applied : Entity) : List Field :=
  schema.stored.filter fun f => !(applied.getD f.name .null).isNull

/-- The stored fields with a staged value. -/
def stagedFields (c : Changeset) : List Field :=
  c.schema.stored.filter fun f => c.changes.has f.name

/-- The values of fields in an entity. -/
def valuesIn (applied : Entity) (fields : List Field) : List Value :=
  fields.map fun f => applied.getD f.name .null

/-- The staged values of fields. -/
def stagedValues (c : Changeset) (fields : List Field) : List Value :=
  fields.map fun f => (c.change? f.name).getD .null

theorem newRecord_eq (schema : Descriptor) (applied : Entity) :
    newRecord schema applied =
      (filledFields schema applied).map fun f => (f.name, applied.getD f.name .null) := by
  rw [newRecord, filledFields]
  induction schema.stored with
  | nil => rfl
  | cons f fields ih =>
      cases hv : applied.find? f.name with
      | none => simp_all [Entity.getD, Value.isNull]
      | some v => cases hnull : v.isNull <;> simp_all [Entity.getD]

/-- A new record has the values that the entity has for stored fields. -/
theorem storedValues_newRecord (schema : Descriptor) (applied : Entity) :
    schema.storedValues (newRecord schema applied) =
      .ok ((filledFields schema applied).map fun f => (f.name, applied.getD f.name .null)) := by
  have hfind : ∀ name, (newRecord schema applied).find? name =
      if name ∈ (filledFields schema applied).map Field.name then some (applied.getD name .null)
      else none := by
    intro name
    rw [newRecord_eq]
    exact Row.find?_map _ Field.name (fun name => applied.getD name .null) name
  have hstored : ∀ name ∈ (newRecord schema applied).keys, name ∈ schema.storedNames := by
    intro name hname
    rw [newRecord_eq] at hname
    obtain ⟨f, hf, rfl⟩ : ∃ f ∈ filledFields schema applied, f.name = name := by
      simpa [Row.keys] using hname
    exact List.mem_map.mpr ⟨f, (List.mem_filter.mp hf).1, rfl⟩
  have hfilled : (schema.stored.filter fun f => (newRecord schema applied).has f.name) =
      filledFields schema applied := by
    refine List.filter_congr fun f hf => ?_
    rw [Row.has, hfind, Bool.eq_iff_iff]
    constructor
    · intro hsome
      obtain ⟨g, hg, hname⟩ : ∃ g ∈ filledFields schema applied, g.name = f.name := by
        simpa using hsome
      rw [← hname]
      exact (List.mem_filter.mp hg).2
    · intro hvalue
      have hmem : f ∈ filledFields schema applied := List.mem_filter.mpr ⟨hf, hvalue⟩
      rw [if_pos (List.mem_map.mpr ⟨f, hmem, rfl⟩)]
      rfl
  rw [schema.storedValues_eq hstored, hfilled]
  refine congrArg Except.ok (List.map_congr_left fun f hf => ?_)
  rw [hfind, if_pos (List.mem_map.mpr ⟨f, hf, rfl⟩), Option.getD_some]

theorem find?_storedChanges (c : Changeset) {f : Field} (hf : f ∈ c.schema.stored) :
    c.storedChanges.find? f.name = c.change? f.name := by
  have hmem : (c.schema.stored.map Field.name).contains f.name = true := by
    simpa using ⟨f, hf, rfl⟩
  rw [storedChanges, Row.find?_filter c.changes (c.schema.stored.map Field.name).contains,
    if_pos hmem, change?]

/-- The changes of a record are the staged values of stored fields. -/
theorem storedValues_storedChanges (c : Changeset) :
    c.schema.storedValues c.storedChanges =
      .ok (c.stagedFields.map fun f => (f.name, (c.change? f.name).getD .null)) := by
  have hstored : ∀ name ∈ c.storedChanges.keys, name ∈ c.schema.storedNames := by
    intro name hname
    obtain ⟨x, hx, rfl⟩ := List.mem_map.mp hname
    simpa [Descriptor.storedNames] using (List.mem_filter.mp hx).2
  have hstaged : (c.schema.stored.filter fun f => c.storedChanges.has f.name) = c.stagedFields :=
    List.filter_congr fun f hf => by rw [Row.has, c.find?_storedChanges hf, change?, Row.has]
  rw [c.schema.storedValues_eq hstored, hstaged]
  refine congrArg Except.ok (List.map_congr_left fun f hf => ?_)
  rw [c.find?_storedChanges (List.mem_filter.mp hf).1]

theorem storedChanges_eq_nil_iff (c : Changeset) :
    c.storedChanges = [] ↔ c.stagedFields = [] := by
  simp only [storedChanges, stagedFields, List.filter_eq_nil_iff]
  constructor
  · intro h f hf hstaged
    obtain ⟨x, hx, hname⟩ := List.mem_map.mp (Row.mem_keys_iff.mpr hstaged)
    exact h x hx (by simpa [hname] using ⟨f, hf, rfl⟩)
  · intro h x hx hmem
    obtain ⟨f, hf, hname⟩ : ∃ f ∈ c.schema.stored, f.name = x.1 := by simpa using hmem
    refine h f hf (Row.mem_keys_iff.mp ?_)
    exact hname ▸ List.mem_map_of_mem hx

/-! ## What is to be written -/

/-- A statement writes a changeset for an action. A new record has the values of the entity with the
changes, apart from `null`. A stored record gets what is staged, and it is found by the key that it
was stored with. -/
inductive Writes (d : Dialect) (c : Changeset) : Action → Statement → Prop where
  | insert {applied : Entity} : c.apply = .ok applied →
      Writes d c .insert (c.schema.recordStatement
        (c.schema.insertionText d ((filledFields c.schema applied).map Field.name))
        (valuesIn applied (filledFields c.schema applied)))
  | update {applied : Entity} : c.data.isStored = true →
      c.apply = .ok applied → c.stagedFields ≠ [] →
      Writes d c .update (c.schema.recordStatement
        (c.schema.changeText d (c.stagedFields.map Field.name))
        (c.stagedValues c.stagedFields ++ [c.data.key]))
  | delete : c.data.isStored = true →
      Writes d c .delete (c.schema.recordStatement (c.schema.removalText d) [c.data.key])

theorem insertion_newRecord (schema : Descriptor) (d : Dialect) (applied : Entity) :
    schema.insertion d (newRecord schema applied) =
      .ok (schema.recordStatement
        (schema.insertionText d ((filledFields schema applied).map Field.name))
        (valuesIn applied (filledFields schema applied))) := by
  rw [Descriptor.insertion, storedValues_newRecord]
  refine congrArg Except.ok ?_
  rw [Descriptor.statement_insertion]
  simp [Row.keys, valuesIn, Function.comp_def]

theorem change_storedChanges (c : Changeset) (d : Dialect) (hstaged : c.stagedFields ≠ []) :
    c.schema.change d c.data.key c.storedChanges =
      .ok (c.schema.recordStatement (c.schema.changeText d (c.stagedFields.map Field.name))
        (c.stagedValues c.stagedFields ++ [c.data.key])) := by
  have hsome : (c.stagedFields.map fun f => (f.name, (c.change? f.name).getD .null)).isEmpty =
      false := by
    simpa using hstaged
  rw [Descriptor.change, storedValues_storedChanges]
  simp only [Except.mapError, bind, Except.bind, hsome, Bool.false_eq_true, if_false]
  refine congrArg Except.ok ?_
  rw [Descriptor.statement_change]
  simp [Row.keys, stagedValues, Function.comp_def]

theorem writes_submittedFor_iff {d : Dialect} {c : Changeset} {a b : Action} {st : Statement} :
    (c.submittedFor b).Writes d a st ↔ c.Writes d a st := by
  constructor
  · intro h
    cases h with
    | insert happlied => exact .insert happlied
    | update hstored happlied hstaged => exact .update hstored happlied hstaged
    | delete hstored => exact .delete hstored
  · intro h
    cases h with
    | insert happlied => exact .insert (c := c.submittedFor b) happlied
    | update hstored happlied hstaged =>
        exact .update (c := c.submittedFor b) hstored happlied hstaged
    | delete hstored => exact .delete (c := c.submittedFor b) hstored

/-- The placeholders of what writes a changeset are numbered from left to right. -/
theorem placeholders_of_writes {d : Dialect} {c : Changeset} {a : Action} {st : Statement}
    (h : c.Writes d a st) : d.placeholders st.text.toList = d.numbered 0 st.parameters.length := by
  have hkeys : ∀ (fields : List Field) (value : Field → Value),
      Row.keys (fields.map fun f => (f.name, value f)) = fields.map Field.name := by
    intro fields value
    simp [Row.keys, Function.comp_def]
  cases h with
  | @insert applied =>
      have hnumbered := c.schema.placeholders_insertionText (d := d)
        ((filledFields c.schema applied).map fun f => (f.name, applied.getD f.name .null))
      rw [hkeys] at hnumbered
      simpa [Descriptor.recordStatement, valuesIn] using hnumbered
  | update =>
      have hnumbered := c.schema.placeholders_changeText (d := d)
        (c.stagedFields.map fun f => (f.name, (c.change? f.name).getD .null))
      rw [hkeys] at hnumbered
      simpa [Descriptor.recordStatement, stagedValues] using hnumbered
  | delete => simpa [Descriptor.recordStatement] using Descriptor.placeholders_removalText

end Changeset

namespace Repo

open Changeset

/-- What is prepared for a changeset writes it. -/
theorem writes_of_prepare {d : Dialect} {a : Action} {c : Changeset} {x : Sending}
    (h : prepare d a c = .ok (.inr x)) : c.Writes d a x.statement := by
  have hvalid := isValid_of_prepare_ne fun hsettled => nomatch h.symm.trans hsettled
  unfold prepare at h
  rw [if_neg (by simp [hvalid])] at h
  split at h
  · cases h
  · rename_i hstored
    cases a with
    | insert =>
        simp only [Outcome.bind_eq_ok_iff, Outcome.mapError_eq_ok_iff, insertion_newRecord] at h
        obtain ⟨applied, happlied, st, hst, h⟩ := h
        cases hst
        cases h
        exact .insert happlied
    | update =>
        have hstored : c.data.isStored = true := by simpa using hstored
        simp only [Outcome.bind_eq_ok_iff, Outcome.mapError_eq_ok_iff] at h
        obtain ⟨applied, happlied, h⟩ := h
        split at h
        · simp at h
        · rename_i hsome
          have hstaged : c.stagedFields ≠ [] := fun hnone =>
            hsome (by simp [c.storedChanges_eq_nil_iff.mpr hnone])
          rw [c.change_storedChanges d hstaged] at h
          cases h
          exact .update hstored happlied hstaged
    | delete =>
        have hstored : c.data.isStored = true := by simpa using hstored
        cases h
        exact Descriptor.removal_eq .. ▸ .delete hstored

/-- What writes a valid changeset is prepared for it. -/
theorem prepare_of_writes {d : Dialect} {a : Action} {c : Changeset} {st : Statement}
    (hvalid : c.isValid = true) (h : c.Writes d a st) :
    ∃ x, prepare d a c = .ok (.inr x) ∧ x.statement = st := by
  cases h with
  | @insert applied happlied =>
      refine ⟨⟨_, applied, .loaded⟩, ?_, rfl⟩
      simp [prepare, hvalid, happlied, insertion_newRecord, Except.mapError,
        Descriptor.recordStatement]
  | @update applied hstored happlied hstaged =>
      have hsome : c.storedChanges ≠ [] := fun hnone =>
        hstaged (c.storedChanges_eq_nil_iff.mp hnone)
      refine ⟨⟨_, applied, .loaded⟩, ?_, rfl⟩
      simp [prepare, hvalid, hstored, happlied, hsome, c.change_storedChanges d hstaged,
        Except.mapError, Descriptor.recordStatement]
  | delete hstored =>
      refine ⟨⟨_, c.data, .deleted⟩, ?_, rfl⟩
      simp [prepare, hvalid, hstored, Descriptor.removal_eq, Descriptor.recordStatement]

/-! ## What reaches the store -/

/-- The statements that a submission sends, in order. -/
def sent (repo : Repo σ) (call : Option Action) (c : Changeset) (own : Option Deadline)
    (compiler : Compiler) (s : σ) : List Statement :=
  ((repo.recorded.submit call c own).runFrom ⟨compiler, s, []⟩).2.store.2.map Exchange.statement

/-- What is prepared is sent, unless there is no deadline to send it with. -/
theorem mem_sent_iff (repo : Repo σ) (call : Option Action) (c : Changeset) (own : Option Deadline)
    (compiler : Compiler) (s : σ) (st : Statement) :
    let a := call.getD c.intendedAction
    st ∈ repo.sent call c own compiler s ↔
      (∃ deadline, repo.deadlineOf own (repo.store.moment s) = .ok deadline) ∧
        ∃ x, prepare compiler.dialect a (c.submittedFor a) = .ok (.inr x) ∧ x.statement = st := by
  have hsame : repo.recorded.deadlineOf own (repo.recorded.store.moment (s, [])) =
      repo.deadlineOf own (repo.store.moment s) := rfl
  rw [sent, submit_eq, runFrom_submit]
  dsimp only
  generalize call.getD c.intendedAction = a
  cases prepare compiler.dialect a (c.submittedFor a) with
  | error e => simp
  | ok outcome =>
      cases outcome with
      | inl k => simp
      | inr x =>
          rw [proceed_inr, runFrom_send, hsame]
          cases repo.deadlineOf own (repo.store.moment s) with
          | error e => simp
          | ok deadline =>
              change st ∈ [x.statement] ↔ _
              simp [eq_comm]

theorem length_sent_le_one (repo : Repo σ) (call : Option Action) (c : Changeset)
    (own : Option Deadline) (compiler : Compiler) (s : σ) :
    (repo.sent call c own compiler s).length ≤ 1 := by
  rw [sent, submit_eq, runFrom_submit, List.length_map]
  exact (ends_proceed repo _ own compiler s).2.2.2.once

/-- A valid changeset is sent as the one statement that writes it, with its placeholders numbered
from left to right. An update of no stored field is not sent. -/
theorem sent_submit (repo : Repo σ) (call : Option Action) (c : Changeset) (own : Option Deadline)
    (compiler : Compiler) (s : σ) (hvalid : c.isValid = true) :
    let a := call.getD c.intendedAction
    let sent := repo.sent call c own compiler s
    sent.length ≤ 1 ∧
      (∀ st, st ∈ sent ↔
        (∃ deadline, repo.deadlineOf own (repo.store.moment s) = .ok deadline) ∧
          c.Writes compiler.dialect a st) ∧
      (a = .update → c.stagedFields = [] → sent = []) ∧
      ∀ st ∈ sent,
        compiler.dialect.placeholders st.text.toList =
          compiler.dialect.numbered 0 st.parameters.length := by
  intro a sent
  have hmem : ∀ st, st ∈ sent ↔
      (∃ deadline, repo.deadlineOf own (repo.store.moment s) = .ok deadline) ∧
        c.Writes compiler.dialect a st := by
    intro st
    have hprepared : (∃ x, prepare compiler.dialect a (c.submittedFor a) = .ok (.inr x) ∧
        x.statement = st) ↔ (c.submittedFor a).Writes compiler.dialect a st :=
      ⟨fun ⟨x, hx, hst⟩ => hst ▸ writes_of_prepare hx, prepare_of_writes hvalid⟩
    refine (repo.mem_sent_iff call c own compiler s st).trans (and_congr_right fun _ => ?_)
    rw [hprepared, writes_submittedFor_iff]
  refine ⟨repo.length_sent_le_one call c own compiler s, hmem, ?_, ?_⟩
  · intro ha hnone
    refine List.eq_nil_iff_forall_not_mem.mpr fun st hst => ?_
    have hwrites := ((hmem st).mp hst).2
    rw [ha] at hwrites
    cases hwrites
    contradiction
  · intro st hst
    exact placeholders_of_writes ((hmem st).mp hst).2

/-- A name, the key and a virtual field are staged in this order: the columns keep the order of the
fields, and the record is found by its old key. -/
theorem sent_submit_key :
    let schema : Descriptor := ⟨"User", "users",
      [⟨"id", .id, false, .null, true⟩, ⟨"nick", .string, true, .null, false⟩,
        ⟨"name", .string, false, .null, false⟩], [], "id", by decide, by decide⟩
    let c : Changeset :=
      { Changeset.start ⟨schema, [("id", .int 1), ("name", .string "Al")], .loaded⟩ with
        changes := [("name", .null), ("id", .int 7), ("nick", .string "Bo")] }
    c.isValid = true ∧
      ⟨"UPDATE \"users\" SET \"id\" = $1, \"name\" = $2 WHERE \"id\" = $3 " ++
          "RETURNING \"id\", \"name\"",
        [.value (.int 7), .value .null, .value (.int 1)], ["id", "name"], some "User"⟩ ∈
        (Repo.mk Replay.store .empty .null).sent none c none (.new none .postgres 512)
          (.start ⟨.whole 0, false⟩ [] none) := by
  intro schema c
  have hvalid : c.isValid = true := rfl
  have hsent := (sent_submit (Repo.mk Replay.store .empty .null) none c none
    (.new none .postgres 512) (.start ⟨.whole 0, false⟩ [] none) hvalid).2.1
  refine ⟨hvalid, (hsent _).mpr ⟨⟨none, rfl⟩, ?_⟩⟩
  have hstaged : c.stagedFields.map Field.name = ["id", "name"] := by decide
  have htext : schema.changeText .postgres ["id", "name"] =
      "UPDATE \"users\" SET \"id\" = $1, \"name\" = $2 WHERE \"id\" = $3 " ++
        "RETURNING \"id\", \"name\"" := by
    decide +kernel
  have happlied : c.apply =
      .ok ⟨schema, [("id", .int 7), ("name", .null), ("nick", .string "Bo")], .loaded⟩ := rfl
  have hwrites := Writes.update (d := .postgres) (c := c) rfl happlied
    fun hnone => by simp [hnone] at hstaged
  rw [hstaged] at hwrites
  exact htext ▸ hwrites

end Repo

end RecordMapper
