import RecordMapper.Proofs.Changeset.Verdict

/-! # Checking twice

What a check adds is not added again: a pipeline of checks that has been run finds everything it
would add already there. -/

namespace RecordMapper

open Outcome

/-! ## Errors that are equal to themselves -/

namespace FieldError

/-- Whether no NaN is in the details of an error. -/
def isRegular (e : FieldError) : Bool := Value.entriesRegular e.details

theorem sameDetails?_self {r : Row Value} (h : Value.entriesRegular r = true) :
    sameDetails? r r = some true := by
  induction r with
  | nil => rfl
  | cons p r ih =>
      obtain ⟨name, v⟩ := p
      rw [Value.entriesRegular, Bool.and_eq_true] at h
      rw [sameDetails?, if_pos rfl, Value.equal?_self h.1]
      exact ih h.2

theorem same?_self {e : FieldError} (h : e.isRegular = true) : same? e e = some true := by
  rw [same?, if_pos ⟨rfl, rfl, rfl, rfl⟩]
  exact sameDetails?_self h

end FieldError

namespace Changeset

variable {c d : Changeset} {e : FieldError} {es : List FieldError}

theorem Telling.isRegular {bounds : List Value} (h : Telling bounds es)
    (hbounds : ∀ b ∈ bounds, b.isRegular = true) : ∀ e ∈ es, e.isRegular = true := by
  intro e he
  refine Value.entriesRegular_iff.mpr fun p hp => ?_
  rcases h.mem_details he hp with hb | ⟨text, htext⟩
  · exact hbounds p.2 hb
  · rw [htext]
    rfl

/-! ## Errors that are there -/

/-- An equal error is found among the errors. -/
def Holds (c : Changeset) (e : FieldError) : Prop :=
  Value.anyOf? (·.same? e) c.errors = some true

theorem Holds.mono (hc : c.Holds e) (h : c.Extends d) : d.Holds e := by
  obtain ⟨new, hnew⟩ := h.errors
  rw [Holds, ← hnew]
  exact Value.anyOf?_append_of_true hc new

theorem Holds.addDistinct (h : c.Holds e) : c.addDistinct e = .ok c := by
  refine addDistinct_eq_ok_iff.mpr ⟨⟨true, h⟩, ?_⟩
  exact if_pos (Value.any_eq_of_anyOf? h)

theorem foldlM_addDistinct_of_holds (h : ∀ e ∈ es, c.Holds e) :
    es.foldlM addDistinct c = .ok c := by
  induction es with
  | nil => rfl
  | cons e es ih =>
      obtain ⟨he, hes⟩ := List.forall_mem_cons.mp h
      rw [List.foldlM_cons, he.addDistinct]
      exact ih hes

/-- An error that is equal to itself is there when it has been added. -/
theorem holds_of_addDistinct (hself : e.same? e = some true) (h : c.addDistinct e = .ok d) :
    d.Holds e := by
  obtain ⟨⟨b, hb⟩, rfl⟩ := addDistinct_eq_ok_iff.mp h
  have hany := Value.any_eq_of_anyOf? hb
  cases b with
  | true =>
      have hadd : c.addError e = c := if_pos hany
      rwa [hadd]
  | false =>
      have hadd : c.addError e = { c with errors := c.errors ++ [e] } :=
        if_neg (Bool.eq_false_iff.mp hany)
      rw [hadd, Holds, Value.anyOf?_append_of_false hb, Value.anyOf?, hself]

theorem holds_of_foldlM_addDistinct (hself : ∀ e ∈ es, e.same? e = some true)
    (h : es.foldlM addDistinct c = .ok d) : ∀ e ∈ es, d.Holds e := by
  induction es generalizing c with
  | nil => nofun
  | cons e es ih =>
      obtain ⟨he, hes⟩ := List.forall_mem_cons.mp hself
      rw [List.foldlM_cons, bind_eq_ok_iff] at h
      obtain ⟨c', hc', hd⟩ := h
      have hannotates : c'.Annotates d := by
        rcases foldlM_addDistinct es c' with hok | hrefused
        · cases hd.symm.trans hok
          exact annotates_foldl_addError es c'
        · cases hd.symm.trans hrefused
      exact List.forall_mem_cons.mpr
        ⟨(holds_of_addDistinct he hc').mono hannotates.toExtends, ih hes hd⟩

/-! ## Fields that were required -/

/-- A field is noted as required, and it has an error or a value. -/
structure Settled (c : Changeset) (name : String) : Prop where
  noted : (name, "required") ∈ c.validations
  told : isBlank (c.value name .null) = true → c.hasErrorOn name = true

theorem Settled.mono {name : String} (hc : c.Settled name) (h : c.Annotates d) :
    d.Settled name where
  noted := h.validations.subset hc.noted
  told := by
    rw [h.sameInput.value]
    exact fun hblank => h.hasErrorOn (hc.told hblank)

theorem withRequired_of_settled {name : String} (message : String) (h : c.Settled name) :
    withRequired message c name = c := by
  have hlacks : ¬ c.lacks name = true := by
    simp only [lacks, Bool.and_eq_true, Bool.not_eq_true', not_and]
    intro hnone hblank
    rw [h.told hblank] at hnone
    cases hnone
  rw [withRequired, if_neg hlacks, addValidation, addOnce_of_mem h.noted]

theorem foldl_withRequired_of_settled {fields : List String} (message : String)
    (h : ∀ name ∈ fields, c.Settled name) : fields.foldl (withRequired message) c = c := by
  induction fields with
  | nil => rfl
  | cons name fields ih =>
      obtain ⟨hname, hfields⟩ := List.forall_mem_cons.mp h
      rw [List.foldl_cons, withRequired_of_settled message hname]
      exact ih hfields

theorem settled_withRequired (message : String) (c : Changeset) (name : String) :
    (withRequired message c name).Settled name := by
  have hnoted : (name, "required") ∈ (c.addValidation name "required").validations :=
    mem_addOnce_iff.mpr (.inr rfl)
  refine ⟨?_, ?_⟩
  · unfold withRequired
    split
    · exact (annotates_addError _ _).validations.subset hnoted
    · exact hnoted
  · rw [(annotates_withRequired message c name).sameInput.value]
    exact fun hblank => (hasErrorOn_withRequired message c name name).mpr (.inr ⟨rfl, hblank⟩)

theorem settled_foldl_withRequired (message : String) (fields : List String) (c : Changeset) :
    ∀ name ∈ fields, (fields.foldl (withRequired message) c).Settled name := by
  induction fields generalizing c with
  | nil => nofun
  | cons name fields ih =>
      have hrest := annotates_foldl_withRequired message fields (withRequired message c name)
      exact List.forall_mem_cons.mpr ⟨(settled_withRequired message c name).mono hrest, ih _⟩

end Changeset

/-! ## One check -/

namespace Check

variable {k : Check} {c d : Changeset}

/-- All that a check would add is there. -/
def Recorded (k : Check) (c : Changeset) : Prop :=
  match k with
  | .validation field name _ => (field, name) ∈ c.validations ∧ ∀ e ∈ k.found, c.Holds e
  | .required fields _ => ∀ name ∈ fields, c.Settled name ∧ name ∈ c.required
  | .constraint kind field name message => declared c kind field name message ∈ c.constraints

theorem Recorded.mono (hk : k.Recorded c) (h : c.Annotates d) : k.Recorded d := by
  cases k with
  | validation =>
      exact ⟨h.validations.subset hk.1, fun e he => (hk.2 e he).mono h.toExtends⟩
  | required =>
      exact fun name hname =>
        ⟨(hk name hname).1.mono h, h.required.subset (hk name hname).2⟩
  | constraint =>
      have hmem := h.constraints.subset hk
      simpa only [Recorded, declared, h.sameInput.schema] using hmem

/-- A check that makes sense leaves a changeset as it is if all that it would add is there. -/
theorem Recorded.run (hk : k.Recorded c) (happlies : k.Applies c) : k.run c = .ok c := by
  cases k with
  | validation field name failures =>
      obtain ⟨es, rfl⟩ := happlies
      have hnoted : c.addValidation field name = c := by
        rw [Changeset.addValidation, Changeset.addOnce_of_mem hk.1]
      have hrun : es.foldlM Changeset.addDistinct (c.addValidation field name) = .ok c := by
        rw [hnoted]
        exact Changeset.foldlM_addDistinct_of_holds hk.2
      exact hrun
  | required fields message =>
      have hfold := Changeset.foldl_withRequired_of_settled (message.getD "is required")
        fun name hname => (hk name hname).1
      have hnone : (fields.filter fun f => !c.required.contains f) = [] := by
        rw [List.filter_eq_nil_iff]
        intro name hname
        simp [(hk name hname).2]
      rw [run_required happlies, applied, hfold, hnone, List.append_nil]
  | constraint kind field name message =>
      rw [run_constraint happlies, applied, Changeset.addOnce_of_mem hk]

/-- All that a check would add is there when it has been run, if what it finds is equal to
itself. -/
theorem recorded_of_run (hself : ∀ e ∈ k.found, e.same? e = some true) (h : k.run c = .ok d) :
    k.Recorded d := by
  cases k with
  | validation field name failures =>
      have hnoted : (field, name) ∈ (c.addValidation field name).validations :=
        Changeset.mem_addOnce_iff.mpr (.inr rfl)
      obtain ⟨⟨es, rfl⟩, rfl⟩ := applied_of_run h
      exact ⟨(Changeset.annotates_foldl_addError es _).validations.subset hnoted,
        Changeset.holds_of_foldlM_addDistinct hself h⟩
  | required fields message =>
      obtain ⟨-, rfl⟩ := applied_of_run h
      intro name hname
      have hsettled := Changeset.settled_foldl_withRequired (message.getD "is required") fields c
        name hname
      refine ⟨⟨hsettled.noted, hsettled.told⟩, List.mem_append.mpr ?_⟩
      by_cases hmem : name ∈ (fields.foldl
          (Changeset.withRequired (message.getD "is required")) c).required
      · exact .inl hmem
      · exact .inr (List.mem_filter.mpr ⟨hname, by simpa using hmem⟩)
  | constraint =>
      obtain ⟨-, rfl⟩ := applied_of_run h
      exact Changeset.mem_addOnce_iff.mpr (.inr rfl)

end Check

/-! ## A pipeline -/

namespace Stage

variable {s : Stage} {stages : List Stage} {c d : Changeset}

/-- All that a stage would add is there. -/
def Recorded (s : Stage) (c : Changeset) : Prop := ∃ k, s.check? c = some k ∧ k.Recorded c

theorem Recorded.mono (hs : s.Recorded c) (h : c.Annotates d) : s.Recorded d := by
  obtain ⟨k, hk, hrecorded⟩ := hs
  exact ⟨k, (check?_of_sameInput s h.sameInput).trans hk, hrecorded.mono h⟩

theorem Recorded.run (hs : s.Recorded c) (happlies : s.Applies c) : s.run c = .ok c := by
  obtain ⟨k, hk, hrecorded⟩ := hs
  obtain ⟨k', hk', happlies⟩ := happlies
  cases hk.symm.trans hk'
  exact (run_of_check? hk).trans (hrecorded.run happlies)

theorem recorded_of_run (hcheck : s.isCheck = true)
    (hbounds : ∀ b ∈ s.bounds, b.isRegular = true) (h : s.run c = .ok d) : s.Recorded d := by
  obtain ⟨k, hk⟩ := exists_check? hcheck c
  obtain ⟨-, hannotates, -⟩ := run_isCheck hcheck h
  have hregular := (telling_found hk).isRegular hbounds
  refine ⟨k, (check?_of_sameInput s hannotates.sameInput).trans hk, ?_⟩
  exact Check.recorded_of_run (fun e he => FieldError.same?_self (hregular e he))
    ((run_of_check? hk).symm.trans h)

/-- All that a pipeline of checks would add is there when it has been run. -/
theorem recorded_of_runAll (hchecks : ∀ s ∈ stages, s.isCheck = true)
    (hbounds : ∀ s ∈ stages, ∀ b ∈ s.bounds, b.isRegular = true)
    (h : runAll stages c = .ok d) : ∀ s ∈ stages, s.Recorded d := by
  induction stages generalizing c with
  | nil => nofun
  | cons s stages ih =>
      obtain ⟨hcheck, hchecks⟩ := List.forall_mem_cons.mp hchecks
      obtain ⟨hregular, hbounds⟩ := List.forall_mem_cons.mp hbounds
      rw [runAll, List.foldlM_cons, bind_eq_ok_iff] at h
      obtain ⟨c', hs, h⟩ := h
      obtain ⟨-, hrest, -⟩ := runAll_isCheck hchecks h
      exact List.forall_mem_cons.mpr
        ⟨(recorded_of_run hcheck hregular hs).mono hrest, ih hchecks hbounds h⟩

theorem runAll_of_recorded (h : ∀ s ∈ stages, s.Recorded c ∧ s.Applies c) :
    runAll stages c = .ok c := by
  induction stages with
  | nil => rfl
  | cons s stages ih =>
      obtain ⟨⟨hrecorded, happlies⟩, hstages⟩ := List.forall_mem_cons.mp h
      rw [runAll, List.foldlM_cons, hrecorded.run happlies]
      exact ih hstages

/-- A pipeline of checks that has been run changes nothing when it is run again. A NaN among the
bounds is not equal to itself, and what is said of it is not found again. -/
theorem runAll_again (hchecks : ∀ s ∈ stages, s.isCheck = true)
    (hbounds : ∀ s ∈ stages, ∀ b ∈ s.bounds, b.isRegular = true)
    (h : runAll stages c = .ok d) : runAll stages d = .ok d := by
  obtain ⟨happlies, hannotates, -⟩ := runAll_isCheck hchecks h
  have hrecorded := recorded_of_runAll hchecks hbounds h
  exact runAll_of_recorded fun s hs =>
    ⟨hrecorded s hs, (happlies s hs).of_sameInput hannotates.sameInput⟩

/-- A name that is too short for a bound is found so once, however often it is checked. -/
theorem runAll_again_tooShort :
    let schema : Descriptor := ⟨"Person", "people",
      [⟨"id", .integer, false, .null, true⟩, ⟨"name", .string, false, .null, false⟩], [], "id",
      by decide, by decide⟩
    let c := { Changeset.start ⟨schema, [], .built⟩ with changes := [("name", .string "Al")] }
    let stages := [Stage.validateLength "name" ⟨none, some (.int 3), none⟩ none,
      Stage.validateRequired ["id", "name"] none, Stage.constraint .unique "name" none none]
    ∃ d, runAll stages c = .ok d ∧ d.errors.length = 2 ∧ d.constraints.length = 1 ∧
      runAll stages d = .ok d := by
  intro schema c stages
  have hrun : (runAll stages c).toOption.map (fun d => (d.errors.length, d.constraints.length)) =
      some (2, 1) := by
    decide +kernel
  obtain ⟨d, hd, hlengths⟩ := Option.map_eq_some_iff.mp hrun
  have hd : runAll stages c = .ok d := toOption_eq_some_iff.mp hd
  obtain ⟨herrors, hconstraints⟩ := Prod.mk.inj hlengths
  have hchecks : ∀ s ∈ stages, s.isCheck = true := by simp [stages, isCheck]
  have hbounds : ∀ s ∈ stages, ∀ b ∈ s.bounds, b.isRegular = true := by
    simp [stages, bounds, Value.isRegular]
  exact ⟨d, hd, herrors, hconstraints, runAll_again hchecks hbounds hd⟩

end Stage

end RecordMapper
