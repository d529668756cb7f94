import RecordMapper.Proofs.Entity.Assigned
import RecordMapper.Proofs.Value.Canonical

/-! # Values that are read back

What loading gives is `null` or a value of the kind that is loaded, and so is what an entity has in
the fields that a row gives values to. The text of a map is the exception: it is read as the JSON
that it is, whether that is a map or not. -/

namespace RecordMapper

open Outcome

namespace Kind

/-- The text of a map, or its bytes, is the JSON of a value that is neither a map nor `null`. -/
inductive Strays : Kind → Value → Value → Prop
  | text {s : String} {v : Value} (hread : Json.readChars s.toList = .ok v) (hnull : v ≠ .null)
      (hmap : ∀ es, v ≠ .map es) : Strays .map (.string s) v
  | bytes {bs : List UInt8} {cs : List Char} {v : Value} (hdecode : Json.decode? bs = some cs)
      (hread : Json.readChars cs = .ok v) (hnull : v ≠ .null) (hmap : ∀ es, v ≠ .map es) :
      Strays .map (.binary bs) v

variable {k : Kind} {cs : List Char} {stored v : Value}

theorem loadJson_eq_ok_iff : loadJson cs = .ok v ↔ Json.readChars cs = .ok v := by
  unfold loadJson
  split <;> simp_all

/-- A value that strays is loaded like any other. -/
theorem Strays.load_eq (h : k.Strays stored v) : k.load stored = .ok v := by
  cases h with
  | text hread => exact loadJson_eq_ok_iff.mpr hread
  | bytes hdecode hread =>
      rw [load, hdecode]
      exact loadJson_eq_ok_iff.mpr hread

theorem cast_map_eq_mismatch (hnull : v ≠ .null) (hmap : ∀ es, v ≠ .map es) :
    map.cast v = .error .mismatch := by
  cases v with
  | null => exact absurd rfl hnull
  | map es => exact absurd rfl (hmap es)
  | _ => rfl

/-- A value that strays would not be cast to the kind that it is loaded as. -/
theorem Strays.cast_eq (h : k.Strays stored v) : k.cast v = .error .mismatch := by
  cases h with
  | text _ hnull hmap => exact cast_map_eq_mismatch hnull hmap
  | bytes _ _ hnull hmap => exact cast_map_eq_mismatch hnull hmap

/-- What is read from the text of a map is a value of the kind unless it strays. -/
theorem cast_read (hstray : v ≠ .null → ¬ ∀ es, v ≠ .map es) : map.cast v = .ok v := by
  refine cast_eq_self_iff.mpr (or_iff_not_imp_left.mpr fun hnull => ?_)
  obtain ⟨es, rfl⟩ := not_forall_not.mp (hstray hnull)
  exact .map es

/-- What loading gives is `null` or a value of the kind unless it strays. -/
theorem cast_loaded (h : k.load stored = .ok v) (hstray : ¬ k.Strays stored v) :
    k.cast v = .ok v := by
  fun_cases load k stored
  case case1 i =>
    cases h
    rfl
  case case2 b =>
    obtain ⟨x, rfl⟩ := Cast.exists_of_floatOfInt h
    rfl
  case case3 s =>
    have hread := loadJson_eq_ok_iff.mp h
    exact cast_read fun hnull hmap => hstray (.text hread hnull hmap)
  case case4 bs cs hdecode =>
    rw [load, hdecode] at h
    have hread := loadJson_eq_ok_iff.mp h
    exact cast_read fun hnull hmap => hstray (.bytes hdecode hread hnull hmap)
  case case5 bs hdecode =>
    rw [load, hdecode] at h
    cases h
  case case6 bs hlength =>
    rw [load, if_pos hlength] at h
    cases h
    rfl
  case case7 bs hlength =>
    rw [load, if_neg hlength] at h
    cases h
  case case8 hboolean hfloat htext hbytes huuid =>
    rw [load] at h
    · exact cast_cast h
    all_goals assumption

theorem cast_loaded_iff (h : k.load stored = .ok v) : k.cast v = .ok v ↔ ¬ k.Strays stored v := by
  refine ⟨fun hcast hstray => ?_, cast_loaded h⟩
  cases hcast.symm.trans hstray.cast_eq

end Kind

namespace Entity

variable {d : Descriptor} {row : Row Value} {e : Entity} {f : Field} {stored : Value}

/-- An entity has in a field what its column is read as. -/
theorem find?_load (h : load d row = .ok e) (hf : f ∈ d.fields)
    (hstored : row.find? f.name = some stored) :
    ∃ v, f.kind.load stored = .ok v ∧ e.find? f.name = some v := by
  simp only [load, bind_eq_ok_iff, pure_eq_ok_iff] at h
  obtain ⟨values, hvalues, rfl⟩ := h
  have hproper : (Entity.mk d values .loaded).Proper :=
    assigns_of_loadFields (.refl d.fields) hvalues
  have hgiven := find?_loadFields d.names_nodup hvalues hf
  rw [hstored] at hgiven
  obtain ⟨v, hv, hgiven⟩ := hgiven
  refine ⟨v, hv, ?_⟩
  rw [find?_of_proper hproper hf, hgiven]
  rfl

/-- Whatever is loaded is `null` or a value of the kind, and so is what an entity has in the fields
that a row gives values to, unless it strays. What strays is loaded as well, but no cast takes
it. -/
theorem typed_load (k : Kind) (stored : Value) :
    (∀ v, k.load stored = .ok v → (k.cast v = .ok v ↔ ¬ k.Strays stored v)) ∧
    (∀ v, k.Strays stored v → k.load stored = .ok v ∧ k.cast v = .error .mismatch) ∧
    ∀ d row e, load d row = .ok e → ∀ f ∈ d.fields, f.kind = k → row.find? f.name = some stored →
      ∃ v, k.load stored = .ok v ∧ e.find? f.name = some v ∧
        (v = .null ∨ k.Admits v ↔ ¬ k.Strays stored v) := by
  refine ⟨fun v => Kind.cast_loaded_iff, fun v h => ⟨h.load_eq, h.cast_eq⟩, ?_⟩
  rintro d row e h f hf rfl hstored
  obtain ⟨v, hv, hfind⟩ := find?_load h hf hstored
  exact ⟨v, hv, hfind, Kind.cast_eq_self_iff.symm.trans (Kind.cast_loaded_iff hv)⟩

/-- The text of a map field is that of a list, and a list is what the entity has there. -/
theorem typed_load_list :
    let d : Descriptor := ⟨"Page", "pages",
      [⟨"id", .integer, false, .null, true⟩, ⟨"layout", .map, false, .null, false⟩], [], "id",
      by decide, by decide⟩
    let layout : Value := .list [.int 1, .int 2]
    ∃ e, load d [("layout", .string "[1,2]")] = .ok e ∧ e.find? "layout" = some layout ∧
      Kind.map.cast layout = .error .mismatch := by
  intro d layout
  obtain ⟨-, hstray, hload⟩ := typed_load .map (.string "[1,2]")
  have hread : Json.readChars "[1,2]".toList = .ok layout := rfl
  obtain ⟨hvalue, hcast⟩ := hstray layout (.text hread nofun nofun)
  have he : load d [("layout", .string "[1,2]")] = .ok ⟨d, [("layout", layout)], .loaded⟩ := rfl
  obtain ⟨v, hv, hfind, -⟩ := hload d _ _ he ⟨"layout", .map, false, .null, false⟩
    (List.mem_cons_of_mem _ (List.mem_singleton_self _)) rfl rfl
  obtain rfl := Except.ok.inj (hvalue.symm.trans hv)
  exact ⟨_, he, hfind, hcast⟩

end Entity

end RecordMapper
