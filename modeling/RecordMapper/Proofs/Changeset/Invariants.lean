import RecordMapper.Proofs.Changeset.Check
import RecordMapper.Proofs.Changeset.Staging

/-! # Invariants of changesets

Stages that are run on a new changeset only add to it, and what they add is of the schema's fields
and is not there twice. -/

namespace RecordMapper

open Outcome

namespace Changeset

variable {c d e : Changeset} {name : String} {v : Value}

/-! ## Well-formed changesets -/

/-- Changes and constraints are those of fields of the schema, and no entry is there twice. -/
structure WellFormed (c : Changeset) : Prop where
  changed : ∀ name ∈ c.changes.keys, c.schema.hasField name = true
  constrained : ∀ k ∈ c.constraints, c.schema.hasField k.field = true
  errors : c.errors.Pairwise fun d e => d.same e = false
  validations : c.validations.Nodup
  constraints : c.constraints.Nodup

theorem wellFormed_start (e : Entity) : (start e).WellFormed :=
  ⟨nofun, nofun, .nil, .nil, .nil⟩

/-- A changeset that extends another one, and that is well formed if the other one is. -/
structure Grows (c d : Changeset) : Prop extends Extends c d where
  wellFormed : c.WellFormed → d.WellFormed

namespace Grows

theorem refl (c : Changeset) : c.Grows c := ⟨.refl c, id⟩

theorem trans (hcd : c.Grows d) (hde : d.Grows e) : c.Grows e :=
  ⟨hcd.toExtends.trans hde.toExtends, hde.wellFormed ∘ hcd.wellFormed⟩

end Grows

/-! ## Adding -/

theorem grows_addError (c : Changeset) (e : FieldError) : c.Grows (c.addError e) := by
  refine ⟨(c.annotates_addError e).toExtends, fun hc => ?_⟩
  rcases c.addError_cases e with ⟨-, h⟩ | ⟨hnone, h⟩
  · rwa [h]
  · rw [h]
    refine { hc with errors := List.pairwise_append.mpr ⟨hc.errors, List.pairwise_singleton _ e, ?_⟩ }
    intro d hd e' he'
    rw [List.mem_singleton.mp he']
    exact hnone d hd

theorem grows_addDistinct {e : FieldError} (h : c.addDistinct e = .ok d) : c.Grows d := by
  obtain ⟨-, rfl⟩ := addDistinct_eq_ok_iff.mp h
  exact c.grows_addError e

theorem grows_foldl_addError (es : List FieldError) (c : Changeset) :
    c.Grows (es.foldl addError c) :=
  foldl_of_step .refl .trans grows_addError es c

theorem grows_addValidation (c : Changeset) (field validation : String) :
    c.Grows (c.addValidation field validation) :=
  ⟨(c.annotates_addValidation field validation).toExtends,
    fun hc => { hc with validations := nodup_addOnce hc.validations _ }⟩

theorem grows_withRequired (message : String) (c : Changeset) (name : String) :
    c.Grows (withRequired message c name) := by
  have hnoted := c.grows_addValidation name "required"
  unfold withRequired
  split
  · exact hnoted.trans (grows_addError _ _)
  · exact hnoted

theorem grows_applied {k : Check} (h : k.Applies c) : c.Grows (k.applied c) := by
  cases k with
  | validation field name failures =>
      exact (c.grows_addValidation field name).trans (grows_foldl_addError _ _)
  | required fields message =>
      let d := fields.foldl (withRequired (message.getD "is required")) c
      have hd : c.Grows d := foldl_of_step .refl .trans (grows_withRequired _) fields c
      refine hd.trans ⟨{ Extends.refl d with required := List.prefix_append _ _ }, ?_⟩
      exact fun hd => ⟨hd.changed, hd.constrained, hd.errors, hd.validations, hd.constraints⟩
  | constraint kind field name message =>
      obtain ⟨f, hf⟩ := h
      refine ⟨(Check.annotates_applied _ c).toExtends, fun hc => ?_⟩
      refine { hc with constrained := ?_, constraints := nodup_addOnce hc.constraints _ }
      intro k hk
      rcases mem_addOnce_iff.mp hk with hk | rfl
      · exact hc.constrained k hk
      · exact Descriptor.hasField_of_field hf

/-! ## Changing -/

/-- A changeset with other changes, to fields of the schema or to fields that were changed. -/
theorem grows_withChanges {changes : Row Value}
    (h : ∀ other ∈ changes.keys, other ∈ c.changes.keys ∨ c.schema.hasField other = true) :
    c.Grows { c with changes } := by
  refine ⟨{ Extends.refl c with }, fun hc => { hc with changed := ?_ }⟩
  intro other hother
  rcases h other hother with hmem | hfield
  · exact hc.changed other hmem
  · exact hfield

theorem grows_insert (h : c.schema.hasField name = true) :
    c.Grows { c with changes := c.changes.insert name v } := by
  refine grows_withChanges fun other hother => ?_
  rcases Row.mem_keys_insert_iff.mp hother with rfl | hmem
  · exact .inr h
  · exact .inl hmem

theorem grows_erase (c : Changeset) (name : String) :
    c.Grows { c with changes := c.changes.erase name } :=
  grows_withChanges fun _ hother => .inl ((Row.keys_erase_sublist c.changes name).subset hother)

theorem grows_compared_stage (hfield : c.schema.hasField name = true)
    (h : compared (c.stage name v) = .ok d) : c.Grows d ∧ d.params = c.params := by
  obtain ⟨same, -, rfl⟩ := compared_stage_eq_ok_iff.mp h
  cases same with
  | false => exact ⟨grows_insert hfield, rfl⟩
  | true => exact ⟨grows_erase c name, rfl⟩

theorem grows_castField {params : Row Value} {emptyValues : List Value}
    (h : castField params emptyValues c name = .ok d) : c.Grows d := by
  unfold castField at h
  split at h
  · cases h
  · rename_i field hfield
    split at h
    · cases h
      exact .refl _
    · rw [bind_eq_ok_iff] at h
      obtain ⟨isEmpty, -, h⟩ := h
      split at h
      · exact (grows_compared_stage (Descriptor.hasField_of_field hfield) h).1
      · exact grows_addDistinct h
      · cases h

theorem grows_cast {params : Row Value} {permitted : List String} {emptyValues : List Value}
    (h : c.cast params permitted emptyValues = .ok d) : c.Grows d := by
  simp only [cast, bind_eq_ok_iff, pure_eq_ok_iff] at h
  obtain ⟨c', hfold, rfl⟩ := h
  have hc' : c.Grows c' :=
    of_foldlM (P := c.Grows) hfold (fun a name b _ hb ha => ha.trans (grows_castField hb)) (.refl c)
  refine hc'.trans ⟨?_, fun hd => { hd with }⟩
  exact { Extends.refl c' with castFields := subset_foldl_addOnce c'.castFields permitted }

theorem grows_stageAll {values : Row Value} (h : c.stageAll values = .ok d) :
    c.Grows d ∧ d.params = c.params := by
  induction values generalizing c with
  | nil =>
      cases h
      exact ⟨.refl _, rfl⟩
  | cons p values ih =>
      obtain ⟨name, v⟩ := p
      simp only [stageAll, bind_eq_ok_iff] at h
      obtain ⟨f, hf, c', hc', h⟩ := h
      have hfield : c.schema.hasField name = true := by
        cases hfound : c.schema.field name with
        | error e =>
            rw [hfound] at hf
            cases hf
        | ok f' => exact Descriptor.hasField_of_field hfound
      obtain ⟨hgrows, hparams⟩ := grows_compared_stage hfield hc'
      obtain ⟨hrest, hrestParams⟩ := ih h
      exact ⟨hgrows.trans hrest, hrestParams.trans hparams⟩

/-- A changeset that is given only if a field is one of the schema. -/
theorem of_ifField {next : Changeset} (h : c.ifField name next = .ok d) :
    c.schema.hasField name = true ∧ next = d := by
  unfold ifField at h
  split at h
  · rename_i f hf
    exact ⟨Descriptor.hasField_of_field hf, Except.ok.inj h⟩
  · cases h

/-! ## Reporting -/

theorem grows_report {field message : String} {source : ErrorSource}
    {validation : Option String} {details : Row Value}
    (h : c.report field message source validation details = .ok d) :
    c.Annotates d ∧ c.Grows d := by
  unfold report at h
  split at h
  · cases h
  · simp only [bind_eq_ok_iff] at h
    obtain ⟨⟨validation, rest⟩, -, h⟩ := h
    exact ⟨annotates_addDistinct h, grows_addDistinct h⟩

theorem grows_addViolation? {e : StorageError} (h : c.addViolation? e = some d) :
    c.Annotates d ∧ c.Grows d := by
  obtain ⟨k, -, rfl⟩ := Option.map_eq_some_iff.mp h
  exact ⟨c.annotates_addError _, c.grows_addError _⟩

/-! ## Steps -/

/-- A step of a pipeline: a stage, or the error for a violation of a declared constraint. -/
inductive Step where
  | stage (s : Stage)
  | violation (e : StorageError)

namespace Step

/-- What a step makes of a changeset, if anything. -/
def next? (s : Step) (c : Changeset) : Option Changeset :=
  match s with
  | stage s => (s.run c).toOption
  | violation e => c.addViolation? e

/-- What steps make of a changeset, one after the other. -/
def runAll? (steps : List Step) (c : Changeset) : Option Changeset :=
  steps.foldlM (fun c s => s.next? c) c

/-- Whether a step goes on with the changeset: submitting one and beginning anew do not. -/
def isPiped : Step → Bool
  | stage (.setAction _) | stage (.restart _) => false
  | _ => true

/-- Whether a step casts. -/
def isCast : Step → Bool
  | stage (.cast ..) => true
  | _ => false

/-- Whether a step stages changes or takes them away. -/
def isEdit : Step → Bool
  | stage (.cast ..) | stage (.change _) | stage (.putChange ..) | stage (.deleteChange _) => true
  | _ => false

/-- What a step may do: it adds, only casting changes the input, and only an edit the changes. -/
structure Moves (s : Step) (c d : Changeset) : Prop extends c.Grows d where
  params : s.isCast = false → d.params = c.params
  changes : s.isEdit = false → d.changes = c.changes

theorem moves_of_annotates {s : Step} (h : c.Annotates d) (hgrows : c.Grows d) : s.Moves c d :=
  ⟨hgrows, fun _ => h.params, fun _ => h.changes⟩

theorem moves_of_run {s : Stage} (hpiped : (stage s).isPiped = true) (h : s.run c = .ok d) :
    (stage s).Moves c d := by
  by_cases hcheck : s.isCheck = true
  · obtain ⟨k, hk⟩ := s.exists_check? hcheck c
    rw [Stage.run_of_check? hk] at h
    obtain ⟨happlies, rfl⟩ := Check.applied_of_run h
    exact moves_of_annotates (k.annotates_applied c) (grows_applied happlies)
  · cases s with
    | cast => exact ⟨grows_cast h, nofun, nofun⟩
    | change values =>
        obtain ⟨hgrows, hparams⟩ := grows_stageAll (stageAll_of_change h)
        exact ⟨hgrows, fun _ => hparams, nofun⟩
    | putChange field v =>
        obtain ⟨hfield, rfl⟩ := of_ifField h
        exact ⟨grows_insert hfield, fun _ => rfl, nofun⟩
    | deleteChange field =>
        obtain ⟨-, rfl⟩ := of_ifField h
        exact ⟨grows_erase c field, fun _ => rfl, nofun⟩
    | addError =>
        obtain ⟨hannotates, hgrows⟩ := grows_report h
        exact moves_of_annotates hannotates hgrows
    | setAction => cases hpiped
    | restart => cases hpiped
    | _ => exact absurd rfl hcheck

/-- One step adds to a changeset and leaves it well formed. -/
theorem moves_of_next? {s : Step} (hpiped : s.isPiped = true) (h : s.next? c = some d) :
    s.Moves c d := by
  cases s with
  | stage s => exact moves_of_run hpiped (toOption_eq_some_iff.mp h)
  | violation e =>
      obtain ⟨hannotates, hgrows⟩ := grows_addViolation? h
      exact moves_of_annotates hannotates hgrows

/-- What every step keeps, a run keeps. -/
theorem of_runAll? {P : Changeset → Prop} {steps : List Step} (h : runAll? steps c = some d)
    (hstep : ∀ s ∈ steps, ∀ a b, s.next? a = some b → P a → P b) (hc : P c) : P d := by
  induction steps generalizing c with
  | nil =>
      cases h
      exact hc
  | cons s steps ih =>
      obtain ⟨hs, hsteps⟩ := List.forall_mem_cons.mp hstep
      rw [runAll?, List.foldlM_cons] at h
      obtain ⟨c', hc', h⟩ := Option.bind_eq_some_iff.mp h
      exact ih h hsteps (hs c c' hc' hc)

/-- A run adds to a changeset and leaves it well formed. -/
theorem grows_of_runAll? {steps : List Step} (hpiped : ∀ s ∈ steps, s.isPiped = true)
    (h : runAll? steps c = some d) : c.Grows d := by
  refine of_runAll? (P := c.Grows) h (fun s hs a b hb ha => ?_) (.refl c)
  exact ha.trans (moves_of_next? (hpiped s hs) hb).toGrows

/-- However a changeset came out of an entity by steps that went through, it is well formed, and
every step on adds to it: nothing that was found, noted or declared is lost, the entity and the
action stay, only casting changes the input and only edits change the changes. What is invalid is
never valid again. -/
theorem invariant_runAll? {entity : Entity} {steps : List Step}
    (hpiped : ∀ s ∈ steps, s.isPiped = true) (h : runAll? steps (start entity) = some c) :
    c.WellFormed ∧ c.data = entity ∧ c.action = none ∧
      (∀ (s : Step) (d : Changeset), s.isPiped = true → s.next? c = some d → c.Extends d ∧
        (s.isCast = false → d.params = c.params) ∧ (s.isEdit = false → d.changes = c.changes) ∧
          d.WellFormed) ∧
      ∀ (more : List Step) (d : Changeset), (∀ s ∈ more, s.isPiped = true) →
        runAll? more c = some d →
        c.Extends d ∧ (c.isValid = false → d.isValid = false) := by
  have hstart := grows_of_runAll? hpiped h
  have hc := hstart.wellFormed (wellFormed_start entity)
  refine ⟨hc, hstart.data, hstart.action, ?_, ?_⟩
  · intro s d hs hd
    have hmoves := moves_of_next? hs hd
    exact ⟨hmoves.toExtends, hmoves.params, hmoves.changes, hmoves.wellFormed hc⟩
  · intro more d hmore hd
    have hgrows := grows_of_runAll? hmore hd
    exact ⟨hgrows.toExtends, hgrows.not_isValid⟩

/-- A person whose key is no number and whose name is taken: the changeset is well formed, and it
stays invalid when the name is taken back. -/
theorem invariant_runAll?_taken :
    let schema : Descriptor := ⟨"Person", "people",
      [⟨"id", .integer, false, .null, true⟩, ⟨"name", .string, false, .null, false⟩], [], "id",
      by decide, by decide⟩
    let steps := [stage (.cast [("id", .string "one"), ("name", .string "Al")] ["id", "name"] []),
      stage (.constraint .unique "name" none none),
      violation (.violation (some "people_name_index") (some "unique") none)]
    ∃ c d, runAll? steps (start ⟨schema, [], .built⟩) = some c ∧ c.errors.length = 2 ∧
      c.WellFormed ∧ (stage (.deleteChange "name")).next? c = some d ∧ d.changes = [] ∧
      c.Extends d ∧ d.isValid = false := by
  intro schema steps
  have hrun : ((runAll? steps (start ⟨schema, [], .built⟩)).bind fun c =>
      ((stage (.deleteChange "name")).next? c).map fun d =>
        (c.errors.length, c.isValid, d.changes.isEmpty)) = some (2, false, true) := by
    decide
  obtain ⟨c, hc, hrun⟩ := Option.bind_eq_some_iff.mp hrun
  obtain ⟨d, hd, hfacts⟩ := Option.map_eq_some_iff.mp hrun
  obtain ⟨herrors, hvalid, hchanges⟩ : c.errors.length = 2 ∧ c.isValid = false ∧
      d.changes.isEmpty = true := by
    simpa using hfacts
  have hpiped : ∀ s ∈ steps, s.isPiped = true := by simp [steps, isPiped]
  obtain ⟨hwell, -, -, hnext, -⟩ := invariant_runAll? hpiped hc
  obtain ⟨hextends, -⟩ := hnext (stage (.deleteChange "name")) d rfl hd
  exact ⟨c, d, hc, herrors, hwell, hd, List.isEmpty_iff.mp hchanges, hextends,
    hextends.not_isValid hvalid⟩

end Step

end Changeset

end RecordMapper
