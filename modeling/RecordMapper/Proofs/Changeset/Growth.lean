import RecordMapper.Changeset.Stage
import RecordMapper.Proofs.Outcome

/-! # Growth of changesets

What is added to a changeset goes to the end of a list, and only where no equal entry is there. So
what was there before stays in front, and nothing is there twice. -/

namespace RecordMapper

/-! ## A test of some items that may give no answer -/

namespace Value

variable {α : Type} {test : α → Option Bool} {xs : List α}

theorem any_eq_of_anyOf? {b : Bool} (h : anyOf? test xs = some b) :
    (xs.any fun x => test x == some true) = b := by
  induction xs with
  | nil => simpa [anyOf?] using h
  | cons x xs ih =>
      rw [anyOf?] at h
      split at h
      · rename_i hx
        simp [hx, ih h]
      · rename_i hx
        cases b with
        | false => exact absurd h hx
        | true => simp [h]

theorem anyOf?_append_of_true (h : anyOf? test xs = some true) (ys : List α) :
    anyOf? test (xs ++ ys) = some true := by
  induction xs with
  | nil => cases h
  | cons x xs ih =>
      rw [anyOf?] at h
      rw [List.cons_append, anyOf?]
      split at h
      · exact ih h
      · exact h

theorem anyOf?_append_of_false (h : anyOf? test xs = some false) (ys : List α) :
    anyOf? test (xs ++ ys) = anyOf? test ys := by
  induction xs with
  | nil => rfl
  | cons x xs ih =>
      rw [anyOf?] at h
      rw [List.cons_append, anyOf?]
      split at h
      · exact ih h
      · rename_i hx
        exact absurd h hx

/-- A test that always gives an answer gives one for some items. -/
theorem exists_anyOf? (h : ∀ x ∈ xs, ∃ b, test x = some b) : ∃ b, anyOf? test xs = some b := by
  induction xs with
  | nil => exact ⟨false, rfl⟩
  | cons x xs ih =>
      obtain ⟨⟨b, hb⟩, hxs⟩ := List.forall_mem_cons.mp h
      rw [anyOf?, hb]
      cases b with
      | false => exact ih hxs
      | true => exact ⟨true, rfl⟩

end Value

/-! ## Errors that are equal -/

namespace FieldError

theorem field_eq_of_same {d e : FieldError} (h : d.same e = true) : d.field = e.field := by
  have hsame : same? d e = some true := by simpa [same] using h
  unfold same? at hsame
  split at hsame
  · rename_i heq
    exact heq.1
  · cases hsame

/-- An error without details can be compared to every error. -/
theorem exists_same?_of_details_nil {e : FieldError} (h : e.details = []) (d : FieldError) :
    ∃ b, same? d e = some b := by
  unfold same?
  rw [h]
  split
  · cases d.details with
    | nil => exact ⟨true, rfl⟩
    | cons => exact ⟨false, rfl⟩
  · exact ⟨false, rfl⟩

end FieldError

namespace Changeset

/-! ## Adding once -/

section AddOnce

variable {α : Type} [BEq α]

theorem prefix_addOnce (xs : List α) (x : α) : xs <+: addOnce xs x := by
  unfold addOnce
  split
  · exact List.prefix_rfl
  · exact List.prefix_append xs [x]

theorem subset_foldl_addOnce (xs ys : List α) : xs ⊆ ys.foldl addOnce xs := by
  induction ys generalizing xs with
  | nil => exact List.Subset.refl xs
  | cons y ys ih => exact List.Subset.trans (prefix_addOnce xs y).subset (ih (addOnce xs y))

variable [LawfulBEq α] {xs : List α} {x y : α}

theorem addOnce_of_mem (h : x ∈ xs) : addOnce xs x = xs := by simp [addOnce, h]

theorem mem_addOnce_iff : y ∈ addOnce xs x ↔ y ∈ xs ∨ y = x := by
  by_cases h : x ∈ xs
  · rw [addOnce_of_mem h]
    refine ⟨Or.inl, ?_⟩
    rintro (hy | rfl)
    · exact hy
    · exact h
  · simp [addOnce, h]

theorem nodup_addOnce (h : xs.Nodup) (x : α) : (addOnce xs x).Nodup := by
  by_cases hx : x ∈ xs
  · rwa [addOnce_of_mem hx]
  · simp only [addOnce, List.contains_iff_mem, hx, if_false]
    refine List.nodup_append.mpr ⟨h, by simp, ?_⟩
    rintro y hy z hz rfl
    exact hx (List.mem_singleton.mp hz ▸ hy)

end AddOnce

variable {c d e : Changeset}

/-! ## What is read and what is added -/

/-- Two changesets with the same entity, the same changes and the same input. -/
structure SameInput (c d : Changeset) : Prop where
  data : d.data = c.data
  changes : d.changes = c.changes
  params : d.params = c.params

namespace SameInput

theorem symm (h : c.SameInput d) : d.SameInput c := ⟨h.data.symm, h.changes.symm, h.params.symm⟩

theorem schema (h : c.SameInput d) : d.schema = c.schema := congrArg Entity.schema h.data

theorem value (h : c.SameInput d) (field : String) (other : Value) :
    d.value field other = c.value field other := by
  unfold Changeset.value change? stored
  rw [h.changes, h.data]

end SameInput

/-- What was found, noted and declared before is there after, in front; the entity and the action
are the same. -/
structure Extends (c d : Changeset) : Prop where
  data : d.data = c.data
  action : d.action = c.action
  errors : c.errors <+: d.errors
  validations : c.validations <+: d.validations
  constraints : c.constraints <+: d.constraints
  required : c.required <+: d.required
  castFields : c.castFields ⊆ d.castFields

namespace Extends

theorem refl (c : Changeset) : c.Extends c :=
  ⟨rfl, rfl, List.prefix_rfl, List.prefix_rfl, List.prefix_rfl, List.prefix_rfl,
    List.Subset.refl _⟩

theorem trans (hcd : c.Extends d) (hde : d.Extends e) : c.Extends e where
  data := hde.data.trans hcd.data
  action := hde.action.trans hcd.action
  errors := hcd.errors.trans hde.errors
  validations := hcd.validations.trans hde.validations
  constraints := hcd.constraints.trans hde.constraints
  required := hcd.required.trans hde.required
  castFields := List.Subset.trans hcd.castFields hde.castFields

theorem hasErrorOn (h : c.Extends d) {field : String} (hc : c.hasErrorOn field = true) :
    d.hasErrorOn field = true := by
  obtain ⟨e, he, hfield⟩ := List.any_eq_true.mp hc
  exact List.any_eq_true.mpr ⟨e, h.errors.subset he, hfield⟩

/-- What is invalid stays invalid. -/
theorem not_isValid (h : c.Extends d) (hc : c.isValid = false) : d.isValid = false := by
  unfold isValid at hc ⊢
  cases hd : d.errors with
  | nil =>
      have hnil : c.errors = [] := List.prefix_nil.mp (hd ▸ h.errors)
      rw [hnil] at hc
      cases hc
  | cons => rfl

end Extends

/-- A changeset with no more than errors, validations, requirements and constraints added. -/
structure Annotates (c d : Changeset) : Prop extends Extends c d where
  changes : d.changes = c.changes
  params : d.params = c.params

namespace Annotates

theorem refl (c : Changeset) : c.Annotates c := ⟨.refl c, rfl, rfl⟩

theorem trans (hcd : c.Annotates d) (hde : d.Annotates e) : c.Annotates e :=
  ⟨hcd.toExtends.trans hde.toExtends, hde.changes.trans hcd.changes, hde.params.trans hcd.params⟩

theorem sameInput (h : c.Annotates d) : c.SameInput d := ⟨h.data, h.changes, h.params⟩

end Annotates

/-- What a step does that can be repeated, a whole run does. -/
theorem foldl_of_step {α : Type} {R : Changeset → Changeset → Prop} (hrefl : ∀ c, R c c)
    (htrans : ∀ {c d e}, R c d → R d e → R c e) {f : Changeset → α → Changeset}
    (hstep : ∀ c x, R c (f c x)) (xs : List α) (c : Changeset) : R c (xs.foldl f c) := by
  induction xs generalizing c with
  | nil => exact hrefl c
  | cons x xs ih => exact htrans (hstep c x) (ih (f c x))

/-! ## Adding an error -/

/-- An error is there already, or it is added at the end. -/
theorem addError_cases (c : Changeset) (e : FieldError) :
    (∃ d ∈ c.errors, d.same e = true) ∧ c.addError e = c ∨
      (∀ d ∈ c.errors, d.same e = false) ∧
        c.addError e = { c with errors := c.errors ++ [e] } := by
  unfold addError
  by_cases h : (c.errors.any fun d => d.same e) = true
  · exact .inl ⟨List.any_eq_true.mp h, if_pos h⟩
  · refine .inr ⟨?_, if_neg h⟩
    intro d hd
    rw [Bool.not_eq_true, List.any_eq_false] at h
    exact Bool.not_eq_true _ ▸ h d hd

theorem annotates_addError (c : Changeset) (e : FieldError) : c.Annotates (c.addError e) := by
  rcases c.addError_cases e with ⟨-, h⟩ | ⟨-, h⟩
  · rw [h]
    exact .refl c
  · rw [h]
    exact ⟨{ Extends.refl c with errors := List.prefix_append _ _ }, rfl, rfl⟩

/-- An equal error is there, if that can be said. -/
theorem addDistinct_eq_ok_iff {e : FieldError} :
    c.addDistinct e = .ok d ↔
      (∃ b, Value.anyOf? (·.same? e) c.errors = some b) ∧ c.addError e = d := by
  unfold addDistinct
  cases Value.anyOf? (·.same? e) c.errors <;> simp

theorem addDistinct_of_details_nil {e : FieldError} (h : e.details = []) :
    c.addDistinct e = .ok (c.addError e) :=
  addDistinct_eq_ok_iff.mpr
    ⟨Value.exists_anyOf? fun d _ => FieldError.exists_same?_of_details_nil h d, rfl⟩

theorem annotates_addDistinct {e : FieldError} (h : c.addDistinct e = .ok d) :
    c.Annotates d := by
  obtain ⟨-, rfl⟩ := addDistinct_eq_ok_iff.mp h
  exact c.annotates_addError e

theorem hasErrorOn_addError (c : Changeset) (e : FieldError) (field : String) :
    (c.addError e).hasErrorOn field = true ↔ c.hasErrorOn field = true ∨ e.field = field := by
  rcases c.addError_cases e with ⟨⟨d, hd, hsame⟩, h⟩ | ⟨-, h⟩
  · rw [h]
    refine ⟨Or.inl, ?_⟩
    rintro (hc | rfl)
    · exact hc
    · exact List.any_eq_true.mpr ⟨d, hd, beq_iff_eq.mpr (FieldError.field_eq_of_same hsame)⟩
  · rw [h]
    simp [hasErrorOn]

/-! ## Adding a validation -/

theorem annotates_addValidation (c : Changeset) (field validation : String) :
    c.Annotates (c.addValidation field validation) :=
  ⟨{ Extends.refl c with validations := prefix_addOnce _ _ }, rfl, rfl⟩

end Changeset

end RecordMapper
