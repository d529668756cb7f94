import RecordMapper.Changeset.Stage
import RecordMapper.Proofs.Entity.Assigned
import RecordMapper.Proofs.Schema.Fields

/-! # Staging values

A value is compared with the one that the entity has. It is staged if the two differ, and otherwise
it takes away what was staged. -/

namespace RecordMapper

open Outcome

namespace Changeset

variable {c d : Changeset} {values : Row Value} {name : String} {v : Value}

/-! ## One value -/

theorem stage_eq {same : Bool} (h : Value.equal? v (c.stored name) = some same) :
    c.stage name v =
      .ok { c with changes := if same then c.changes.erase name else c.changes.insert name v } := by
  rw [stage, Value.isEqual, h]
  cases same <;> rfl

theorem find?_staged (v : Value) (same : Bool) (other : String) :
    Row.find? (if same then c.changes.erase name else c.changes.insert name v) other =
      if name = other then (if same then none else some v) else c.changes.find? other := by
  cases same with
  | true => exact Row.find?_erase c.changes name other
  | false => exact Row.find?_insert c.changes name v other

/-- A value is staged if it differs from the one that the entity has, and otherwise takes away what
was staged. -/
theorem compared_stage_eq_ok_iff :
    compared (c.stage name v) = .ok d ↔
      ∃ same, Value.equal? v (c.stored name) = some same ∧
        d = { c with
          changes := if same then c.changes.erase name else c.changes.insert name v } := by
  rw [compared, mapError_eq_ok_iff]
  constructor
  · intro h
    cases hequal : Value.equal? v (c.stored name) with
    | none =>
        rw [stage, Value.isEqual, hequal] at h
        cases h
    | some same =>
        rw [stage_eq hequal] at h
        exact ⟨same, rfl, (Except.ok.inj h).symm⟩
  · rintro ⟨same, hequal, rfl⟩
    exact stage_eq hequal

/-! ## Several values -/

theorem stageAll_cons {same : Bool} (hname : c.schema.hasField name = true)
    (h : Value.equal? v (c.stored name) = some same) :
    c.stageAll ((name, v) :: values) =
      stageAll { c with changes := if same then c.changes.erase name else c.changes.insert name v }
        values := by
  obtain ⟨f, hf⟩ := Descriptor.hasField_iff.mp hname
  rw [stageAll, hf, stage_eq h]
  rfl

/-- Values that can all be compared are staged, each where it differs from what the entity has. -/
theorem exists_stageAll (hvalues : c.schema.Assigns values)
    (h : ∀ p ∈ values, ∃ same, Value.equal? p.2 (c.stored p.1) = some same) :
    ∃ changes, c.stageAll values = .ok { c with changes } ∧ ∀ name, Row.find? changes name =
      match values.find? name with
      | some v => if Value.equal? v (c.stored name) = some true then none else some v
      | none => c.changes.find? name := by
  induction values generalizing c with
  | nil => exact ⟨c.changes, rfl, fun _ => rfl⟩
  | cons p values ih =>
      obtain ⟨k, v⟩ := p
      obtain ⟨hfield, hnew, hrest⟩ := hvalues.of_cons
      obtain ⟨⟨same, hsame⟩, h⟩ := List.forall_mem_cons.mp h
      let staged := if same then c.changes.erase k else c.changes.insert k v
      obtain ⟨changes, hchanges, hfind⟩ := ih (c := { c with changes := staged }) hrest h
      refine ⟨changes, (stageAll_cons hfield hsame).trans hchanges, fun name => ?_⟩
      rw [hfind, Row.find?]
      by_cases hname : k = name
      · subst hname
        rw [if_pos rfl, hnew]
        change Row.find? staged k = if Value.equal? v (c.stored k) = some true then none else some v
        rw [find?_staged, if_pos rfl, hsame]
        cases same <;> rfl
      · rw [if_neg hname]
        cases Row.find? values name with
        | some w => rfl
        | none =>
            change Row.find? staged name = c.changes.find? name
            rw [find?_staged, if_neg hname]

/-- Values of which one cannot be compared are not staged. -/
theorem stageAll_refused (hvalues : c.schema.Assigns values)
    (h : ∃ p ∈ values, Value.equal? p.2 (c.stored p.1) = none) :
    c.stageAll values = .error (.comparison .refused) := by
  induction values generalizing c with
  | nil =>
      obtain ⟨p, hp, -⟩ := h
      cases hp
  | cons p values ih =>
      obtain ⟨k, v⟩ := p
      obtain ⟨hfield, -, hrest⟩ := hvalues.of_cons
      cases hsame : Value.equal? v (c.stored k) with
      | none =>
          obtain ⟨f, hf⟩ := Descriptor.hasField_iff.mp hfield
          rw [stageAll, hf, stage, Value.isEqual, hsame]
          rfl
      | some same =>
          rw [stageAll_cons hfield hsame]
          obtain ⟨p, hp, hnone⟩ := h
          rcases List.mem_cons.mp hp with rfl | hp
          · rw [hsame] at hnone
            cases hnone
          · exact ih hrest ⟨p, hp, hnone⟩

theorem change_eq (values : Row Value) (h : values.has reservedName = false) :
    c.change values = c.stageAll values := by
  rw [change, h]
  rfl

theorem stageAll_of_change (h : c.change values = .ok d) : c.stageAll values = .ok d := by
  unfold change at h
  split at h
  · cases h
  · exact h

/-- Only values for fields of the schema are staged. -/
theorem hasField_of_stageAll (h : c.stageAll values = .ok d) :
    ∀ name ∈ values.keys, c.schema.hasField name = true := by
  induction values generalizing c with
  | nil => nofun
  | cons p values ih =>
      simp only [stageAll, bind_eq_ok_iff, mapError_eq_ok_iff] at h
      obtain ⟨field, hfield, c', hc', h⟩ := h
      obtain ⟨same, -, rfl⟩ := compared_stage_eq_ok_iff.mp hc'
      have hrest := ih h
      exact List.forall_mem_cons.mpr ⟨Descriptor.hasField_of_field hfield, hrest⟩

/-- Of values that are staged, each can be compared with what the entity has, and is staged where it
differs. -/
theorem change?_stageAll (hkeys : values.keys.Nodup) (h : c.stageAll values = .ok d)
    (hv : values.find? name = some v) :
    d.change? name = if Value.equal? v (c.stored name) = some true then none else some v := by
  have hassigns : c.schema.Assigns values := ⟨hasField_of_stageAll h, hkeys⟩
  have hcompared : ∀ p ∈ values, ∃ same, Value.equal? p.2 (c.stored p.1) = some same := by
    intro p hp
    cases hequal : Value.equal? p.2 (c.stored p.1) with
    | some same => exact ⟨same, rfl⟩
    | none => cases (stageAll_refused hassigns ⟨p, hp, hequal⟩).symm.trans h
  obtain ⟨changes, hchanges, hfind⟩ := exists_stageAll hassigns hcompared
  obtain rfl := Except.ok.inj (hchanges.symm.trans h)
  rw [change?, hfind, hv]

end Changeset

end RecordMapper
