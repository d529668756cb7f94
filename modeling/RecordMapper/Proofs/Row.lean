import RecordMapper.Row

/-! # Values by name

What a name has in a row that was changed, and which names a row has. -/

namespace RecordMapper.Row

variable {α : Type} {r s : Row α} {name other : String} {v : α}

/-! ## Entries -/

theorem find?_of_mem (hnodup : (r.map Prod.fst).Nodup) (h : (name, v) ∈ r) :
    r.find? name = some v := by
  induction r with
  | nil => cases h
  | cons p r ih =>
      obtain ⟨k, w⟩ := p
      obtain ⟨hk, hnodup⟩ := List.nodup_cons.mp hnodup
      rw [Row.find?]
      rcases List.mem_cons.mp h with heq | h
      · cases heq
        exact if_pos rfl
      · have hne : k ≠ name := by
          rintro rfl
          have hmem : k ∈ r.map Prod.fst := List.mem_map_of_mem (f := Prod.fst) h
          exact hk hmem
        rw [if_neg hne, ih hnodup h]

theorem mem_of_find? (h : r.find? name = some v) : (name, v) ∈ r := by
  induction r with
  | nil => cases h
  | cons p r ih =>
      obtain ⟨k, w⟩ := p
      rw [Row.find?] at h
      split at h
      · rename_i hk
        rw [← hk, ← Option.some.inj h]
        exact List.mem_cons_self
      · exact List.mem_cons_of_mem (k, w) (ih h)

theorem find?_eq_none_iff : r.find? name = none ↔ name ∉ r.keys := by
  rw [mem_keys_iff, Option.not_isSome_iff_eq_none]

/-- A name is looked up in the first of two rows, and in the second one if it has no value there. -/
theorem find?_append (r s : Row α) (name : String) :
    Row.find? (r ++ s) name = (r.find? name).or (s.find? name) := by
  induction r with
  | nil => rfl
  | cons p r ih =>
      obtain ⟨k, v⟩ := p
      rw [List.cons_append, Row.find?, Row.find?]
      split
      · rfl
      · exact ih

theorem find?_filter (r : Row α) (p : String → Bool) (name : String) :
    Row.find? (r.filter fun x => p x.1) name = if p name then r.find? name else none := by
  induction r with
  | nil => simp
  | cons x r ih =>
      rw [List.filter_cons]
      split <;> grind [Row.find?]

theorem find?_map {β : Type} (xs : List β) (key : β → String) (value : String → α) (name : String) :
    Row.find? (xs.map fun x => (key x, value (key x))) name =
      if name ∈ xs.map key then some (value name) else none := by
  induction xs with
  | nil => rfl
  | cons x xs ih => grind [Row.find?]

/-! ## Giving names values and taking them away -/

theorem insert_of_notMem (h : name ∉ r.map Prod.fst) (v : α) : r.insert name v = r ++ [(name, v)] := by
  induction r with
  | nil => rfl
  | cons p r ih =>
      obtain ⟨hname, hrest⟩ := List.ne_and_not_mem_of_not_mem_cons h
      rw [Row.insert, if_neg hname.symm, ih hrest, List.cons_append]

theorem mem_keys_insert_iff : other ∈ (r.insert name v).keys ↔ other = name ∨ other ∈ r.keys := by
  rw [mem_keys_iff, mem_keys_iff, find?_insert]
  by_cases h : name = other
  · simp [h]
  · simp [h, Ne.symm h]

theorem nodup_keys_insert (h : r.keys.Nodup) (name : String) (v : α) :
    (r.insert name v).keys.Nodup := by
  induction r with
  | nil => simp [insert, keys]
  | cons p r ih =>
      obtain ⟨k, w⟩ := p
      obtain ⟨hk, hr⟩ := List.nodup_cons.mp h
      rw [insert]
      split
      · exact h
      · rename_i hne
        refine List.nodup_cons.mpr ⟨fun hmem => ?_, ih hr⟩
        rcases mem_keys_insert_iff.mp hmem with heq | hmem
        · exact hne heq
        · exact hk hmem

/-- An entry of a row in which a name was given a value is that value, or it was there. -/
theorem mem_insert {w : α} (h : (other, w) ∈ r.insert name v) :
    other = name ∧ w = v ∨ (other, w) ∈ r := by
  induction r with
  | nil => exact .inl (Prod.mk.inj (List.mem_singleton.mp h))
  | cons p r ih =>
      obtain ⟨k, u⟩ := p
      rw [insert] at h
      split at h
      · rename_i hk
        rcases List.mem_cons.mp h with heq | h
        · exact .inl (hk ▸ Prod.mk.inj heq)
        · exact .inr (List.mem_cons_of_mem _ h)
      · rcases List.mem_cons.mp h with heq | h
        · exact .inr (heq ▸ List.mem_cons_self)
        · exact (ih h).imp_right (List.mem_cons_of_mem _)

theorem erase_subset (r : Row α) (name : String) : r.erase name ⊆ r := by
  induction r with
  | nil => exact List.Subset.refl []
  | cons p r ih =>
      rw [erase]
      split
      · exact List.subset_cons_of_subset p ih
      · exact List.cons_subset_cons p ih

theorem keys_erase_sublist (r : Row α) (name : String) : (r.erase name).keys.Sublist r.keys := by
  induction r with
  | nil => exact .slnil
  | cons p r ih =>
      rw [erase]
      split
      · exact ih.cons p.1
      · exact ih.cons_cons p.1

/-! ## One row over another -/

theorem overlay_cons (r s : Row α) (name : String) (v : α) :
    r.overlay ((name, v) :: s) = (r.insert name v).overlay s := rfl

theorem mem_keys_overlay_iff : other ∈ (r.overlay s).keys ↔ other ∈ r.keys ∨ other ∈ s.keys := by
  induction s generalizing r with
  | nil => exact (or_iff_left List.not_mem_nil).symm
  | cons p s ih =>
      obtain ⟨k, v⟩ := p
      have hkeys : other ∈ keys ((k, v) :: s) ↔ other = k ∨ other ∈ keys s := List.mem_cons
      rw [overlay_cons, ih, mem_keys_insert_iff, hkeys, or_assoc, or_left_comm]

theorem nodup_keys_overlay (h : r.keys.Nodup) (s : Row α) : (r.overlay s).keys.Nodup := by
  induction s generalizing r with
  | nil => exact h
  | cons p s ih => exact ih (nodup_keys_insert h p.1 p.2)

/-- A name has the value that the upper row gives it, and otherwise the one of the lower row. -/
theorem find?_overlay (hs : s.keys.Nodup) (name : String) :
    (r.overlay s).find? name = (s.find? name).or (r.find? name) := by
  induction s generalizing r with
  | nil => rfl
  | cons p s ih =>
      obtain ⟨k, v⟩ := p
      obtain ⟨hk, hs⟩ := List.nodup_cons.mp hs
      rw [overlay_cons, ih hs, find?_insert, find?]
      by_cases hname : k = name
      · have hnone : Row.find? s name = none := find?_eq_none_iff.mpr (hname ▸ hk)
        rw [if_pos hname, if_pos hname, hnone]
        rfl
      · rw [if_neg hname, if_neg hname]

/-- A row whose names are all new is added at the end. -/
theorem overlay_of_nodup (h : (r.keys ++ s.keys).Nodup) : r.overlay s = r ++ s := by
  induction s generalizing r with
  | nil => exact (List.append_nil r).symm
  | cons p s ih =>
      obtain ⟨k, v⟩ := p
      have hkeys : keys (r ++ [(k, v)]) ++ keys s = keys r ++ keys ((k, v) :: s) := by simp [keys]
      have hk : k ∉ keys r := fun hmem =>
        (List.nodup_append.mp h).2.2 k hmem k List.mem_cons_self rfl
      rw [overlay_cons, insert_of_notMem hk, ih (hkeys ▸ h), List.append_assoc,
        List.singleton_append]

end RecordMapper.Row
