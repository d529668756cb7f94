import Mathlib.Data.List.Induction
import RecordMapper.Proofs.Changeset.Casting

/-! # Effects of a cast

A cast has one effect for each permitted field, which depends on the entity and on the input for the
field alone. So a field that is named again has the effect that it had, and the errors come in the
order in which their fields are first named. -/

namespace RecordMapper

open Outcome

namespace Changeset

variable {c d : Changeset} {params : Row Value} {emptyValues : List Value} {name other : String}

/-! ## Effects -/

/-- What a cast does for one field: nothing, it stages a value, it takes a staged one away, or it
records that the input is none of the field's kind. -/
inductive Effect where
  | keep
  | put (v : Value)
  | drop
  | fail (kind : Kind)

namespace Effect

/-- The changeset after an effect for a field. -/
def on (c : Changeset) (name : String) : Effect → Changeset
  | keep => c
  | put v => { c with changes := c.changes.insert name v }
  | drop => { c with changes := c.changes.erase name }
  | fail kind => c.addError (castFailure name kind)

/-- The staged value of a field after an effect for it. -/
def staged (before : Option Value) : Effect → Option Value
  | keep | fail _ => before
  | put v => some v
  | drop => none

theorem staged_staged (before : Option Value) (effect : Effect) :
    effect.staged (effect.staged before) = effect.staged before := by
  cases effect <;> rfl

end Effect

/-- The effect that a cast has for a field of an entity. -/
inductive Does (x : Entity) (params : Row Value) (emptyValues : List Value) (name : String) :
    Effect → Prop where
  | keep (hnone : params.find? name = none) : Does x params emptyValues name .keep
  | put {field : Field} {v w : Value} (hfield : x.schema.field name = .ok field)
      (hv : Takes params emptyValues name v) (hw : field.kind.cast v = .ok w)
      (h : Value.equal? w (x.getD name .null) = some false) :
      Does x params emptyValues name (.put w)
  | drop {field : Field} {v w : Value} (hfield : x.schema.field name = .ok field)
      (hv : Takes params emptyValues name v) (hw : field.kind.cast v = .ok w)
      (h : Value.equal? w (x.getD name .null) = some true) :
      Does x params emptyValues name .drop
  | fail {field : Field} {v : Value} (hfield : x.schema.field name = .ok field)
      (hv : Takes params emptyValues name v) (h : field.kind.cast v = .error .mismatch) :
      Does x params emptyValues name (.fail field.kind)

variable {x : Entity}

theorem Takes.ne_none {v : Value} (hv : Takes params emptyValues name v) :
    params.find? name ≠ none := by
  obtain ⟨raw, hraw, -⟩ := hv.find?
  simp [hraw]

/-- For a field with input the effect is that of casting the value that is taken. -/
theorem Does.cases_of_takes {field : Field} {v : Value} {effect : Effect}
    (h : Does x params emptyValues name effect) (hfield : x.schema.field name = .ok field)
    (hv : Takes params emptyValues name v) :
    (∃ w same, field.kind.cast v = .ok w ∧ Value.equal? w (x.getD name .null) = some same ∧
      effect = if same then .drop else .put w) ∨
    field.kind.cast v = .error .mismatch ∧ effect = .fail field.kind := by
  cases h with
  | keep hnone => exact absurd hnone hv.ne_none
  | put hfield' hv' hw hdiffers =>
      obtain rfl := Except.ok.inj (hfield.symm.trans hfield')
      obtain rfl := hv.unique hv'
      exact .inl ⟨_, false, hw, hdiffers, rfl⟩
  | drop hfield' hv' hw hsame =>
      obtain rfl := Except.ok.inj (hfield.symm.trans hfield')
      obtain rfl := hv.unique hv'
      exact .inl ⟨_, true, hw, hsame, rfl⟩
  | fail hfield' hv' hw =>
      obtain rfl := Except.ok.inj (hfield.symm.trans hfield')
      obtain rfl := hv.unique hv'
      exact .inr ⟨hw, rfl⟩

/-- A field that is cast has the effect of what its value is cast to. -/
theorem does_of_ok {field : Field} {v w : Value} (hfield : x.schema.field name = .ok field)
    (hv : Takes params emptyValues name v) (hw : field.kind.cast v = .ok w) {effect : Effect}
    (h : Does x params emptyValues name effect) :
    ∃ same, Value.equal? w (x.getD name .null) = some same ∧
      effect = if same then .drop else .put w := by
  rcases h.cases_of_takes hfield hv with ⟨w', same, hw', hsame, heffect⟩ | ⟨hw', -⟩
  · obtain rfl := Except.ok.inj (hw.symm.trans hw')
    exact ⟨same, hsame, heffect⟩
  · cases hw.symm.trans hw'

theorem does_of_mismatch {field : Field} {v : Value} (hfield : x.schema.field name = .ok field)
    (hv : Takes params emptyValues name v) (hw : field.kind.cast v = .error .mismatch)
    {effect : Effect} (h : Does x params emptyValues name effect) : effect = .fail field.kind := by
  rcases h.cases_of_takes hfield hv with ⟨w', same, hw', -, -⟩ | ⟨-, heffect⟩
  · cases hw.symm.trans hw'
  · exact heffect

theorem does_of_none (hnone : params.find? name = none) {effect : Effect}
    (h : Does x params emptyValues name effect) : effect = .keep := by
  cases h with
  | keep => rfl
  | put _ hv _ _ => exact absurd hnone hv.ne_none
  | drop _ hv _ _ => exact absurd hnone hv.ne_none
  | fail _ hv _ => exact absurd hnone hv.ne_none

/-- A cast has one effect for a field. -/
theorem Does.unique {effect other : Effect} (h : Does x params emptyValues name effect)
    (hother : Does x params emptyValues name other) : effect = other := by
  cases h with
  | keep hnone => exact (does_of_none hnone hother).symm
  | put hfield hv hw hdiffers =>
      obtain ⟨same, hsame, rfl⟩ := does_of_ok hfield hv hw hother
      obtain rfl := Option.some.inj (hdiffers.symm.trans hsame)
      rfl
  | drop hfield hv hw hequal =>
      obtain ⟨same, hsame, rfl⟩ := does_of_ok hfield hv hw hother
      obtain rfl := Option.some.inj (hequal.symm.trans hsame)
      rfl
  | fail hfield hv hw => exact (does_of_mismatch hfield hv hw hother).symm

/-- The effect depends on the input for the field alone. -/
theorem Does.of_agree {params' : Row Value} (hagree : params'.find? name = params.find? name)
    {effect : Effect} (h : Does x params emptyValues name effect) :
    Does x params' emptyValues name effect := by
  have htakes : ∀ {v}, Takes params emptyValues name v → Takes params' emptyValues name v := by
    intro v hv
    cases hv with
    | raw hraw hempty => exact .raw (hagree.trans hraw) hempty
    | null hraw hempty => exact .null (hagree.trans hraw) hempty
  cases h with
  | keep hnone => exact .keep (hagree.trans hnone)
  | put hfield hv hw h => exact .put hfield (htakes hv) hw h
  | drop hfield hv hw h => exact .drop hfield (htakes hv) hw h
  | fail hfield hv h => exact .fail hfield (htakes hv) h

/-- A value that is compared with the entity's is staged, or it takes the staged one away. -/
theorem stage_of_equal? {v : Value} {same : Bool}
    (h : Value.equal? v (c.data.getD name .null) = some same) :
    c.stage name v = .ok ((if same then Effect.drop else .put v).on c name) := by
  rw [stage_eq h]
  cases same <;> rfl

/-- Casting the input for a field has its effect. -/
theorem castField_eq_of_does {field : Field} (hfield : c.schema.field name = .ok field)
    {effect : Effect} (h : Does c.data params emptyValues name effect) :
    castField params emptyValues c name = .ok (effect.on c name) := by
  cases h with
  | keep hnone => simp only [castField, hfield, hnone, Effect.on]
  | put hfield' hv hw hdiffers =>
      obtain rfl := Except.ok.inj (hfield.symm.trans hfield')
      rw [castField_of_takes hfield hv, castTaken, hw]
      simp only [stage_of_equal? hdiffers]
      rfl
  | drop hfield' hv hw hsame =>
      obtain rfl := Except.ok.inj (hfield.symm.trans hfield')
      rw [castField_of_takes hfield hv, castTaken, hw]
      simp only [stage_of_equal? hsame]
      rfl
  | fail hfield' hv hw =>
      obtain rfl := Except.ok.inj (hfield.symm.trans hfield')
      rw [castField_of_takes hfield hv, castTaken, hw]
      obtain ⟨d, hd, -⟩ := c.addDistinct_castFailure name field.kind
      have haddError := (addDistinct_eq_ok_iff.mp hd).2
      simp only [hd, Effect.on, haddError]

/-- A cast has an effect for a field of the schema, or it is refused. -/
theorem exists_does {field : Field} (hfield : x.schema.field name = .ok field)
    (h : ∀ e, ¬ RefusesCast x params emptyValues name e) :
    ∃ effect, Does x params emptyValues name effect := by
  rcases takes_cases params emptyValues name with hnone | ⟨v, hraw, hempty⟩ | ⟨v, hv⟩
  · exact ⟨.keep, .keep hnone⟩
  · exact absurd (.emptiness hraw hempty) (h _)
  · cases hw : field.kind.cast v with
    | ok w =>
        cases hequal : Value.equal? w (x.getD name .null) with
        | none => exact absurd (.difference hfield hv hw hequal) (h _)
        | some same =>
            cases same with
            | false => exact ⟨.put w, .put hfield hv hw hequal⟩
            | true => exact ⟨.drop, .drop hfield hv hw hequal⟩
    | error e =>
        by_cases he : e = .mismatch
        · subst he
          exact ⟨.fail field.kind, .fail hfield hv hw⟩
        · exact absurd (.conversion hfield hv (Kind.escaped_cast_iff.mp ⟨hw, he⟩)) (h _)

theorem not_refusesCast_of_does {field : Field} (hfield : x.schema.field name = .ok field)
    {effect : Effect} (h : Does x params emptyValues name effect) (e : StageError) :
    ¬ RefusesCast x params emptyValues name e := by
  have hstart : (start x).schema.field name = .ok field := hfield
  intro hrefused
  have herror := (castField_eq_error_iff hstart).mpr hrefused
  cases (castField_eq_of_does hstart h).symm.trans herror

/-! ## Errors -/

theorem same_castFailure (name : String) (kind : Kind) :
    (castFailure name kind).same (castFailure name kind) = true := by
  simp [FieldError.same, FieldError.same?, castFailure, FieldError.sameDetails?, Value.equal?]

theorem eq_of_same_castFailure {e : FieldError} {kind : Kind}
    (h : e.same (castFailure name kind) = true) : e = castFailure name kind := by
  obtain ⟨b, hb, heq⟩ := exists_same?_castFailure kind e
  exact heq (by simpa [FieldError.same, hb] using h)

/-- The error for a field whose input is none of its kind. -/
def Mismatches (x : Entity) (params : Row Value) (emptyValues : List Value) (name : String)
    (e : FieldError) : Prop :=
  ∃ kind, Does x params emptyValues name (.fail kind) ∧ e = castFailure name kind

/-- The errors that a cast records: those that are not there yet, in the order in which their fields
are first named. -/
structure Records (c : Changeset) (params : Row Value) (emptyValues : List Value)
    (names : List String) (fresh : List FieldError) : Prop where
  order : (fresh.map FieldError.field).Sublist names.eraseDups
  mem_iff : ∀ e, e ∈ fresh ↔ (∃ n ∈ names, Mismatches c.data params emptyValues n e) ∧
    ∀ old ∈ c.errors, old.same e = false

theorem eraseDups_concat (names : List String) (name : String) :
    (names ++ [name]).eraseDups =
      if name ∈ names then names.eraseDups else names.eraseDups ++ [name] := by
  rw [List.eraseDups_append]
  by_cases h : name ∈ names
  · simp [h, List.removeAll]
  · simp [h, List.removeAll, List.eraseDups_cons]

variable {names : List String} {fresh : List FieldError}

theorem exists_mem_concat_iff {p : String → Prop} :
    (∃ n ∈ names ++ [name], p n) ↔ (∃ n ∈ names, p n) ∨ p name := by
  simp only [List.mem_append, List.mem_singleton, or_and_right, exists_or, exists_eq_left]

theorem eraseDups_sublist_concat (names : List String) (name : String) :
    names.eraseDups.Sublist (names ++ [name]).eraseDups := by
  rw [eraseDups_concat]
  split
  · exact .refl _
  · exact List.sublist_append_left _ _

/-- The input for one more field adds no error: it has none, or its error is there. -/
theorem Records.concat_of_there (h : Records c params emptyValues names fresh)
    (hthere : ∀ e, Mismatches c.data params emptyValues name e → e ∈ c.errors ++ fresh) :
    Records c params emptyValues (names ++ [name]) fresh := by
  refine ⟨h.order.trans (eraseDups_sublist_concat _ _), fun e => ?_⟩
  rw [h.mem_iff, exists_mem_concat_iff]
  refine and_congr_left fun hnew => (or_iff_left_of_imp fun hmismatches => ?_).symm
  rcases List.mem_append.mp (hthere e hmismatches) with hold | hfresh
  · obtain ⟨kind, -, rfl⟩ := hmismatches
    cases (hnew _ hold).symm.trans (same_castFailure name kind)
  · exact ((h.mem_iff e).mp hfresh).1

/-- The input for one more field is none of its kind, and its error is not there yet. -/
theorem Records.concat_of_new {kind : Kind} (h : Records c params emptyValues names fresh)
    (hdoes : Does c.data params emptyValues name (.fail kind))
    (hnew : ∀ old ∈ c.errors ++ fresh, old.same (castFailure name kind) = false) :
    Records c params emptyValues (names ++ [name]) (fresh ++ [castFailure name kind]) := by
  obtain ⟨hold, hfresh⟩ := List.forall_mem_append.mp hnew
  have hname : name ∉ names := by
    intro hmem
    have hrecorded := (h.mem_iff _).mpr ⟨⟨name, hmem, kind, hdoes, rfl⟩, hold⟩
    cases (hfresh _ hrecorded).symm.trans (same_castFailure name kind)
  constructor
  · rw [eraseDups_concat, if_neg hname, List.map_append]
    exact h.order.append (.refl _)
  · intro e
    rw [List.mem_append, h.mem_iff, exists_mem_concat_iff, or_and_right, List.mem_singleton]
    refine or_congr_right ⟨?_, ?_⟩
    · rintro rfl
      exact ⟨⟨kind, hdoes, rfl⟩, hold⟩
    · rintro ⟨⟨kind', hdoes', rfl⟩, -⟩
      cases hdoes.unique hdoes'
      rfl

/-! ## All fields -/

/-- What casting the input for some fields makes of a changeset. A named field has the staged value
that its effect leaves, any other field the one that it had, and the new errors come behind those
that were there. -/
structure Ran (c : Changeset) (params : Row Value) (emptyValues : List Value) (names : List String)
    (d : Changeset) : Prop where
  rest : d = { c with changes := d.changes, errors := d.errors }
  named : ∀ n ∈ names, ∀ effect, Does c.data params emptyValues n effect →
    d.change? n = effect.staged (c.change? n)
  other : ∀ n, n ∉ names → d.change? n = c.change? n
  errors : ∃ fresh, d.errors = c.errors ++ fresh ∧ Records c params emptyValues names fresh

theorem change?_on (effect : Effect) (c : Changeset) (name other : String) :
    (effect.on c name).change? other =
      if name = other then effect.staged (c.change? other) else c.change? other := by
  cases effect with
  | keep => exact (ite_self _).symm
  | put v => exact Row.find?_insert _ _ _ _
  | drop => exact Row.find?_erase _ _ _
  | fail kind =>
      have hsame : (c.addError (castFailure name kind)).change? other = c.change? other :=
        congrArg (Row.find? · other) (c.annotates_addError _).changes
      exact hsame.trans (ite_self _).symm

theorem ran_nil (c : Changeset) (params : Row Value) (emptyValues : List Value) :
    Ran c params emptyValues [] c where
  rest := rfl
  named := nofun
  other _ _ := rfl
  errors := ⟨[], (List.append_nil _).symm, List.Sublist.refl _, by simp⟩

theorem rest_on (effect : Effect) (d : Changeset) (name : String) :
    effect.on d name =
      { d with changes := (effect.on d name).changes, errors := (effect.on d name).errors } := by
  cases effect with
  | fail kind =>
      rcases d.addError_cases (castFailure name kind) with ⟨-, h⟩ | ⟨-, h⟩
      · rw [Effect.on, h]
      · rw [Effect.on, h]
  | _ => rfl

/-- One more field is cast. -/
theorem Ran.concat {effect : Effect} (h : Ran c params emptyValues names d)
    (hdoes : Does c.data params emptyValues name effect) :
    Ran c params emptyValues (names ++ [name]) (effect.on d name) := by
  constructor
  · rw [rest_on, h.rest]
  · intro n hn other hother
    rw [change?_on]
    split
    · rename_i hname
      subst hname
      obtain rfl := hdoes.unique hother
      by_cases hmem : name ∈ names
      · rw [h.named name hmem effect hdoes, Effect.staged_staged]
      · rw [h.other name hmem]
    · rename_i hname
      have hmem : n ∈ names := by simpa [Ne.symm hname] using hn
      exact h.named n hmem other hother
  · intro n hn
    rw [List.mem_append, List.mem_singleton, not_or] at hn
    rw [change?_on, if_neg (Ne.symm hn.2), h.other n hn.1]
  · obtain ⟨fresh, herrors, hrecords⟩ := h.errors
    have hsilent : (∀ kind, effect ≠ .fail kind) →
        Records c params emptyValues (names ++ [name]) fresh := by
      intro hnot
      refine hrecords.concat_of_there ?_
      rintro e ⟨kind, hfail, -⟩
      exact absurd (hdoes.unique hfail) (hnot kind)
    cases effect with
    | keep => exact ⟨fresh, herrors, hsilent nofun⟩
    | put v => exact ⟨fresh, herrors, hsilent nofun⟩
    | drop => exact ⟨fresh, herrors, hsilent nofun⟩
    | fail kind =>
        rcases d.addError_cases (castFailure name kind) with ⟨⟨old, hold, hsame⟩, h⟩ | ⟨hnew, h⟩
        · refine ⟨fresh, by rw [Effect.on, h, herrors], hrecords.concat_of_there ?_⟩
          rintro e ⟨kind', hfail, rfl⟩
          cases hdoes.unique hfail
          rwa [← eq_of_same_castFailure hsame, ← herrors]
        · refine ⟨fresh ++ [castFailure name kind], ?_, ?_⟩
          · rw [Effect.on, h, herrors, List.append_assoc]
          · exact hrecords.concat_of_new hdoes (herrors ▸ hnew)

theorem ran_castFields (hfields : ∀ n ∈ names, ∃ field, c.schema.field n = .ok field)
    (h : names.foldlM (castField params emptyValues) c = .ok d) :
    Ran c params emptyValues names d := by
  induction names using List.reverseRecOn generalizing d with
  | nil =>
      obtain rfl := pure_eq_ok_iff.mp h
      exact ran_nil c params emptyValues
  | append_singleton front name ih =>
      simp only [List.foldlM_append, List.foldlM_cons, List.foldlM_nil, bind_eq_ok_iff,
        pure_eq_ok_iff] at h
      obtain ⟨d', hfront, e, hname, rfl⟩ := h
      have hran := ih (fun n hn => hfields n (List.mem_append_left _ hn)) hfront
      have hdata : d'.data = c.data := (grows_castFields hfront).data
      obtain ⟨field, hfield⟩ := hfields name (by simp)
      have hfield' : d'.schema.field name = .ok field := by rwa [schema, hdata]
      have haccepted : ∀ e, ¬ RefusesCast d'.data params emptyValues name e := by
        intro e hrefused
        cases ((castField_eq_error_iff hfield').mpr hrefused).symm.trans hname
      obtain ⟨effect, hdoes⟩ := exists_does hfield' haccepted
      rw [castField_eq_of_does hfield' hdoes] at hname
      obtain rfl := Except.ok.inj hname
      rw [hdata] at hdoes
      exact hran.concat hdoes

/-- A cast goes through when the input for no permitted field is refused. -/
theorem succeeds_cast_iff {permitted : List String}
    (hfields : ∀ n ∈ permitted, ∃ field, c.schema.field n = .ok field) :
    Succeeds (c.cast params permitted emptyValues) ↔
      ∀ n ∈ permitted, ∀ e, ¬ RefusesCast c.data params emptyValues n e := by
  constructor
  · rintro ⟨d, hd⟩ n hn e hrefused
    obtain ⟨front, back, rfl⟩ := List.append_of_mem hn
    obtain ⟨field, hfield⟩ := hfields n hn
    simp only [cast, List.foldlM_append, List.foldlM_cons, bind_eq_ok_iff] at hd
    obtain ⟨-, ⟨a, ha, b, hb, -⟩, -⟩ := hd
    have hdata : a.data = c.data := (grows_castFields ha).data
    have hfield' : a.schema.field n = .ok field := by rwa [schema, hdata]
    rw [← hdata] at hrefused
    cases ((castField_eq_error_iff hfield').mpr hrefused).symm.trans hb
  · intro h
    cases hcast : c.cast params permitted emptyValues with
    | ok d => exact succeeds_ok d
    | error e =>
        obtain ⟨front, n, back, rfl, -, hrefused⟩ := (cast_eq_error_iff hfields).mp hcast
        exact absurd hrefused (h n (by simp) e)

/-! ## Two runs -/

/-- Runs over the same fields agree if they have the same input for them, whatever the order of the
fields and any other input. -/
theorem Ran.agrees {d' : Changeset} {params' : Row Value} {names' : List String}
    (h : Ran c params emptyValues names d) (h' : Ran c params' emptyValues names' d')
    (hdoes : ∀ n ∈ names, ∃ effect, Does c.data params emptyValues n effect)
    (hsame : ∀ n, n ∈ names' ↔ n ∈ names)
    (hagree : ∀ n ∈ names, params'.find? n = params.find? n) :
    (∀ n, d'.change? n = d.change? n) ∧ ∀ e, e ∈ d'.errors ↔ e ∈ d.errors := by
  constructor
  · intro n
    by_cases hn : n ∈ names
    · obtain ⟨effect, heffect⟩ := hdoes n hn
      have hleft := h'.named n ((hsame n).mpr hn) effect (heffect.of_agree (hagree n hn))
      exact hleft.trans (h.named n hn effect heffect).symm
    · have hn' : n ∉ names' := fun hmem => hn ((hsame n).mp hmem)
      exact (h'.other n hn').trans (h.other n hn).symm
  · intro e
    obtain ⟨fresh, herrors, hrecords⟩ := h.errors
    obtain ⟨fresh', herrors', hrecords'⟩ := h'.errors
    have hmismatches : (∃ n ∈ names', Mismatches c.data params' emptyValues n e) ↔
        ∃ n ∈ names, Mismatches c.data params emptyValues n e := by
      refine exists_congr fun n => ?_
      rw [hsame n]
      refine and_congr_right fun hn => exists_congr fun kind => and_congr_left fun _ => ?_
      exact ⟨.of_agree (hagree n hn).symm, .of_agree (hagree n hn)⟩
    rw [herrors, herrors', List.mem_append, List.mem_append, hrecords.mem_iff, hrecords'.mem_iff,
      hmismatches]

end Changeset

end RecordMapper
