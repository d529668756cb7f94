import RecordMapper.Proofs.Changeset.Growth

/-! # Checks

A stage that checks a changeset reads the entity, the changes and the input only. From these it
follows what it adds, whatever was found before: it runs a validation, requires fields, or declares
a constraint. -/

namespace RecordMapper

open Outcome

namespace Changeset

variable {c d : Changeset}

/-! ## Adding what is found -/

/-- What is found is added at the end, unless a comparison with an error that is there is
refused. -/
theorem foldlM_addDistinct (es : List FieldError) (c : Changeset) :
    es.foldlM addDistinct c = .ok (es.foldl addError c) ∨
      es.foldlM addDistinct c = .error (.comparison .refused) := by
  induction es generalizing c with
  | nil => exact .inl rfl
  | cons e es ih =>
      rw [List.foldlM_cons, List.foldl_cons, addDistinct]
      split
      · exact ih (c.addError e)
      · exact .inr rfl

theorem annotates_foldl_addError (es : List FieldError) (c : Changeset) :
    c.Annotates (es.foldl addError c) :=
  foldl_of_step .refl .trans annotates_addError es c

theorem hasErrorOn_foldl_addError (es : List FieldError) (c : Changeset) (field : String) :
    (es.foldl addError c).hasErrorOn field = true ↔
      c.hasErrorOn field = true ∨ ∃ e ∈ es, e.field = field := by
  induction es generalizing c with
  | nil => simp
  | cons e es ih =>
      rw [List.foldl_cons, ih, hasErrorOn_addError, or_assoc]
      simp

/-! ## Requiring fields -/

/-- Whether a field without an error has no value. -/
def lacks (c : Changeset) (name : String) : Bool :=
  !c.hasErrorOn name && isBlank (c.value name .null)

/-- A changeset in which a field was required. -/
def withRequired (message : String) (c : Changeset) (name : String) : Changeset :=
  if c.lacks name then
    (c.addValidation name "required").addError (failure name message "required" [])
  else c.addValidation name "required"

theorem requireField_of_error {message name : String} {e : LookupError}
    (h : c.schema.field name = .error e) : requireField message c name = .error (.lookup e) := by
  rw [requireField, h]

theorem requireField_of_ok {message name : String} {f : Field} (h : c.schema.field name = .ok f) :
    requireField message c name = .ok (withRequired message c name) := by
  have hhas : (c.addValidation name "required").hasErrorOn name = c.hasErrorOn name := rfl
  have hvalue : (c.addValidation name "required").value name .null = c.value name .null := rfl
  simp only [requireField, h, withRequired, lacks, hhas, hvalue]
  by_cases herror : c.hasErrorOn name = true
  · simp [herror]
  · by_cases hblank : isBlank (c.value name .null) = true
    · have hadd := addDistinct_of_details_nil (c := c.addValidation name "required")
        (e := failure name message "required" []) rfl
      simp [herror, hblank, hadd]
    · simp [hblank]

theorem annotates_withRequired (message : String) (c : Changeset) (name : String) :
    c.Annotates (withRequired message c name) := by
  have hnoted := c.annotates_addValidation name "required"
  unfold withRequired
  split
  · exact hnoted.trans (annotates_addError _ _)
  · exact hnoted

theorem annotates_foldl_withRequired (message : String) (fields : List String) (c : Changeset) :
    c.Annotates (fields.foldl (withRequired message) c) :=
  foldl_of_step .refl .trans (annotates_withRequired message) fields c

/-- Fields are required one by one, if all of them are fields of the schema. -/
theorem foldlM_requireField_eq_ok_iff {message : String} {fields : List String} :
    fields.foldlM (requireField message) c = .ok d ↔
      (∀ name ∈ fields, Succeeds (c.schema.field name)) ∧
        fields.foldl (withRequired message) c = d := by
  induction fields generalizing c with
  | nil => simp
  | cons name fields ih =>
      rw [List.foldlM_cons, List.foldl_cons, List.forall_mem_cons]
      cases h : c.schema.field name with
      | error e => simp [requireField_of_error h]
      | ok f =>
          have hschema := (annotates_withRequired message c name).sameInput.schema
          simp [requireField_of_ok h, ih, hschema]

/-- A field that was required has an error or a value. -/
theorem hasErrorOn_withRequired (message : String) (c : Changeset) (name field : String) :
    (withRequired message c name).hasErrorOn field = true ↔
      c.hasErrorOn field = true ∨ name = field ∧ isBlank (c.value name .null) = true := by
  have hhas : (c.addValidation name "required").hasErrorOn field = c.hasErrorOn field := rfl
  unfold withRequired
  by_cases hlacks : c.lacks name = true
  · have hblank : isBlank (c.value name .null) = true := (Bool.and_eq_true_iff.mp hlacks).2
    rw [if_pos hlacks, hasErrorOn_addError, hhas]
    simp [failure, hblank]
  · rw [if_neg hlacks, hhas]
    refine ⟨Or.inl, ?_⟩
    rintro (hc | ⟨rfl, hblank⟩)
    · exact hc
    -- a field without a value is passed over only because it has an error
    · simpa [lacks, hblank] using hlacks

theorem hasErrorOn_foldl_withRequired (message : String) (fields : List String) (c : Changeset)
    (field : String) :
    (fields.foldl (withRequired message) c).hasErrorOn field = true ↔
      c.hasErrorOn field = true ∨ field ∈ fields ∧ isBlank (c.value field .null) = true := by
  induction fields generalizing c with
  | nil => simp
  | cons name fields ih =>
      have hinput := (annotates_withRequired message c name).sameInput
      rw [List.foldl_cons, ih, hasErrorOn_withRequired, hinput.value, List.mem_cons]
      constructor
      · rintro ((hc | ⟨rfl, hblank⟩) | ⟨hmem, hblank⟩)
        · exact .inl hc
        · exact .inr ⟨.inl rfl, hblank⟩
        · exact .inr ⟨.inr hmem, hblank⟩
      · rintro (hc | ⟨rfl | hmem, hblank⟩)
        · exact .inl (.inl hc)
        · exact .inl (.inr ⟨rfl, hblank⟩)
        · exact .inr ⟨hmem, hblank⟩

end Changeset

/-! ## Checks by their form -/

/-- A check of a changeset: a validation of a field with what it finds wrong, fields that have to
have a value, or the declaration of a constraint. -/
inductive Check where
  | validation (field name : String) (failures : Changeset.Failures)
  | required (fields : List String) (message : Option String)
  | constraint (kind : ConstraintKind) (field : String) (name message : Option String)

/-- Whether a stage validates or declares. -/
def Stage.isCheck : Stage → Bool
  | .cast .. | .change _ | .putChange .. | .deleteChange _ => false
  | .addError .. | .setAction _ | .restart _ => false
  | _ => true

/-- The check that a stage makes of a changeset. -/
def Stage.check? (s : Stage) (c : Changeset) : Option Check :=
  match s with
  | .validateRequired fields message => some (.required fields message)
  | .validateLength field bounds message =>
    some (.validation field "length"
      (c.ofNewValue field (Changeset.lengthFailures field bounds message)))
  | .validateFormat field search message =>
    some (.validation field "format"
      (c.ofNewValue field (Changeset.formatFailures field search message)))
  | .validateInclusion field values message =>
    some (.validation field "inclusion" (c.ofNewValue field
      (Changeset.membershipFailures field "inclusion" values true (message.getD "is invalid"))))
  | .validateExclusion field values message =>
    some (.validation field "exclusion" (c.ofNewValue field
      (Changeset.membershipFailures field "exclusion" values false (message.getD "is reserved"))))
  | .validateNumber field checks message =>
    some (.validation field "number" (c.numberFailures field checks message))
  | .validateConfirmation field required message =>
    some (.validation field "confirmation" (c.confirmationFailures field required message))
  | .validateAcceptance field message =>
    some (.validation field "acceptance" (c.acceptanceFailures field message))
  | .validateChange field validator validation =>
    some (.validation field validation (c.ownFailures field validator validation))
  | .constraint kind field name message => some (.constraint kind field name message)
  | _ => none

/-- The bounds against which a stage holds a length or a number. -/
def Stage.bounds : Stage → List Value
  | .validateLength _ bounds _ =>
    bounds.exactly.toList ++ bounds.least.toList ++ bounds.most.toList
  | .validateNumber _ checks _ => checks.map Prod.snd
  | _ => []

namespace Check

variable {k : Check} {c d : Changeset}

/-- What a check makes of a changeset. -/
def run (k : Check) (c : Changeset) : Staged :=
  match k with
  | .validation field name failures => c.validated field name failures
  | .required fields message => c.validateRequired fields message
  | .constraint kind field name message => c.declare kind field name message

/-- The constraint that a check declares. -/
def declared (c : Changeset) (kind : ConstraintKind) (field : String)
    (name message : Option String) : Constraint :=
  ⟨kind, field,
    Relationship.orElse name (Changeset.defaultConstraintName kind c.schema.relation field),
    message.getD (Changeset.defaultConstraintMessage kind)⟩

/-- A check makes sense: what it looks for can be found out, and the fields are there. -/
def Applies (k : Check) (c : Changeset) : Prop :=
  match k with
  | .validation _ _ failures => Succeeds failures
  | .required fields _ => ∀ name ∈ fields, Succeeds (c.schema.field name)
  | .constraint _ field _ _ => Succeeds (c.schema.field field)

/-- The errors that a validation finds. -/
def found : Check → List FieldError
  | .validation _ _ failures => failures.toOption.getD []
  | _ => []

/-- A changeset with all that a check adds. -/
def applied (k : Check) (c : Changeset) : Changeset :=
  match k with
  | .validation field name _ => k.found.foldl Changeset.addError (c.addValidation field name)
  | .required fields message =>
    let d := fields.foldl (Changeset.withRequired (message.getD "is required")) c
    { d with required := d.required ++ fields.filter fun f => !d.required.contains f }
  | .constraint kind field name message =>
    { c with constraints := Changeset.addOnce c.constraints (declared c kind field name message) }

/-- A check finds something wrong with a field, whatever was found before. -/
def Reports (k : Check) (c : Changeset) (field : String) : Prop :=
  match k with
  | .validation .. => ∃ e ∈ k.found, e.field = field
  | .required fields _ => field ∈ fields ∧ Changeset.isBlank (c.value field .null) = true
  | .constraint .. => False

/-- A check gives a changeset only if it makes sense, and then what it adds is added. -/
theorem applied_of_run (h : k.run c = .ok d) : k.Applies c ∧ k.applied c = d := by
  cases k with
  | validation field name failures =>
      simp only [run, Changeset.validated, bind_eq_ok_iff] at h
      obtain ⟨es, rfl, h⟩ := h
      refine ⟨⟨es, rfl⟩, ?_⟩
      rcases Changeset.foldlM_addDistinct es (c.addValidation field name) with hok | hrefused
      · exact Except.ok.inj (hok.symm.trans h)
      · rw [hrefused] at h
        cases h
  | required fields message =>
      simp only [run, Changeset.validateRequired, bind_eq_ok_iff, pure_eq_ok_iff] at h
      obtain ⟨d', hd', rfl⟩ := h
      obtain ⟨hfields, rfl⟩ := Changeset.foldlM_requireField_eq_ok_iff.mp hd'
      exact ⟨hfields, rfl⟩
  | constraint kind field name message =>
      simp only [run, Changeset.declare, Changeset.ifField] at h
      split at h
      · rename_i f hf
        exact ⟨⟨f, hf⟩, Except.ok.inj h⟩
      · cases h

theorem run_required {fields : List String} {message : Option String}
    (h : (required fields message).Applies c) :
    (required fields message).run c = .ok ((required fields message).applied c) := by
  have hfold : fields.foldlM (Changeset.requireField (message.getD "is required")) c = .ok _ :=
    Changeset.foldlM_requireField_eq_ok_iff.mpr ⟨h, rfl⟩
  simp only [run, Changeset.validateRequired, hfold]
  rfl

theorem run_constraint {kind : ConstraintKind} {field : String} {name message : Option String}
    (h : (constraint kind field name message).Applies c) :
    (constraint kind field name message).run c =
      .ok ((constraint kind field name message).applied c) := by
  obtain ⟨f, hf⟩ := h
  simp only [run, Changeset.declare, Changeset.ifField, hf]
  rfl

/-- A check that makes sense gives a changeset, unless a comparison of two errors is refused. -/
theorem Applies.run (h : k.Applies c) :
    k.run c = .ok (k.applied c) ∨ k.run c = .error (.comparison .refused) := by
  cases k with
  | validation field name failures =>
      obtain ⟨es, rfl⟩ := h
      exact Changeset.foldlM_addDistinct es (c.addValidation field name)
  | required => exact .inl (run_required h)
  | constraint => exact .inl (run_constraint h)

/-- A check adds, and changes nothing else. -/
theorem annotates_applied (k : Check) (c : Changeset) : c.Annotates (k.applied c) := by
  cases k with
  | validation field name failures =>
      exact (c.annotates_addValidation field name).trans
        (Changeset.annotates_foldl_addError _ _)
  | required fields message =>
      let d := fields.foldl (Changeset.withRequired (message.getD "is required")) c
      have hd : c.Annotates d := Changeset.annotates_foldl_withRequired _ fields c
      exact hd.trans ⟨{ Changeset.Extends.refl d with required := List.prefix_append _ _ }, rfl, rfl⟩
  | constraint kind field name message =>
      exact ⟨{ Changeset.Extends.refl c with constraints := Changeset.prefix_addOnce _ _ }, rfl, rfl⟩

/-- A check adds an error on the fields in which it finds something wrong, if there is none. -/
theorem hasErrorOn_applied (k : Check) (c : Changeset) (field : String) :
    (k.applied c).hasErrorOn field = true ↔ c.hasErrorOn field = true ∨ k.Reports c field := by
  cases k with
  | validation name validation failures => exact Changeset.hasErrorOn_foldl_addError _ _ field
  | required fields message => exact Changeset.hasErrorOn_foldl_withRequired _ fields c field
  | constraint kind name message => exact (iff_of_eq (or_false _)).symm

/-! ## What a check depends on -/

theorem Applies.of_sameInput (h : c.SameInput d) (hk : k.Applies c) : k.Applies d := by
  cases k with
  | validation => exact hk
  | required => simpa only [Applies, h.schema] using hk
  | constraint => simpa only [Applies, h.schema] using hk

theorem Reports.of_sameInput (h : c.SameInput d) {field : String} (hk : k.Reports c field) :
    k.Reports d field := by
  cases k with
  | validation => exact hk
  | required => simpa only [Reports, h.value] using hk
  | constraint => exact hk

end Check

namespace Stage

variable {s : Stage} {k : Check} {c d : Changeset}

theorem exists_check? (h : s.isCheck = true) (c : Changeset) : ∃ k, s.check? c = some k := by
  cases s <;> first | exact ⟨_, rfl⟩ | cases h

/-- A stage that makes a check does what the check does. -/
theorem run_of_check? (h : s.check? c = some k) : s.run c = k.run c := by
  cases s <;> cases h <;> rfl

/-- Changesets with the same input get the same check. -/
theorem check?_of_sameInput (s : Stage) (h : c.SameInput d) : s.check? d = s.check? c := by
  obtain ⟨data, changes, params, errors, castFields, required, validations, constraints, action⟩ := c
  obtain ⟨hdata, hchanges, hparams⟩ := h
  cases d
  dsimp only at hdata hchanges hparams
  subst hdata hchanges hparams
  cases s <;> rfl

end Stage

end RecordMapper
