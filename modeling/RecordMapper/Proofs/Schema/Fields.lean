import Mathlib.Data.List.Nodup
import RecordMapper.Schema.Registry

/-! # Schemas and fields by name

The names of a schema's fields are different, so that a name leads to the one field that has it. -/

namespace RecordMapper

/-- A look-up by a key that is different for all items gives the one item of the key. -/
theorem find?_key_eq_some_iff {α : Type} {key : α → String} {xs : List α}
    (hnodup : (xs.map key).Nodup) {k : String} {x : α} :
    xs.find? (key · == k) = some x ↔ x ∈ xs ∧ key x = k := by
  constructor
  · intro h
    have hkey := List.find?_some h
    exact ⟨List.mem_of_find?_eq_some h, beq_iff_eq.mp hkey⟩
  · rintro ⟨hx, rfl⟩
    have hsome : (xs.find? (key · == key x)).isSome := List.find?_isSome.mpr ⟨x, hx, by simp⟩
    obtain ⟨y, hy⟩ := Option.isSome_iff_exists.mp hsome
    have hkey := List.find?_some hy
    obtain rfl := List.inj_on_of_nodup_map hnodup (List.mem_of_find?_eq_some hy) hx
      (beq_iff_eq.mp hkey)
    exact hy

namespace Descriptor

variable {d : Descriptor} {name : String} {f : Field}

/-- A name is looked up as the field that has it. -/
theorem field_eq_ok_iff : d.field name = .ok f ↔ f ∈ d.fields ∧ f.name = name := by
  have hfind : d.field name = .ok f ↔ d.find? name = some f := by
    unfold field
    cases d.find? name <;> simp
  rw [hfind, find?, find?_key_eq_some_iff d.names_nodup]

theorem hasField_iff : d.hasField name = true ↔ ∃ f, d.field name = .ok f := by
  simp only [hasField, List.any_eq_true, beq_iff_eq, field_eq_ok_iff]

theorem hasField_of_field (h : d.field name = .ok f) : d.hasField name = true :=
  hasField_iff.mpr ⟨f, h⟩

end Descriptor

end RecordMapper
