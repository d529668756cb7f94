import RecordMapper.Proofs.Changeset.Failures
import RecordMapper.Proofs.Value.Comparison

/-! # The verdict of a pipeline of checks

Checks look at errors that are there, to pass over a field or to add no error twice. This never
changes whether something is found wrong with a field, so a pipeline finds something wrong with the
fields with which its stages do on their own, in any order. -/

namespace RecordMapper

open Outcome

/-! ## Errors that can be compared -/

namespace FieldError

/-- Whether two errors are equal can be said. -/
def Comparable (d e : FieldError) : Prop := ∃ b, same? d e = some b

/-- Whether no signaling NaN is in the details of an error. -/
def isQuiet (e : FieldError) : Bool := Value.entriesQuiet e.details

theorem exists_sameDetails? {r s : Row Value} (hr : Value.entriesQuiet r = true)
    (hs : Value.entriesQuiet s = true) : ∃ b, sameDetails? r s = some b := by
  induction r generalizing s with
  | nil => cases s <;> exact ⟨_, rfl⟩
  | cons p r ih =>
      cases s with
      | nil => exact ⟨false, rfl⟩
      | cons q s =>
          rw [Value.entriesQuiet, Bool.and_eq_true] at hr hs
          rw [sameDetails?]
          split
          · obtain ⟨b, hb⟩ := Value.exists_equal? hr.1 hs.1
            rw [hb]
            cases b with
            | false => exact ⟨false, rfl⟩
            | true => exact ih hr.2 hs.2
          · exact ⟨false, rfl⟩

theorem comparable_of_isQuiet {d e : FieldError} (hd : d.isQuiet = true) (he : e.isQuiet = true) :
    d.Comparable e := by
  unfold Comparable same?
  split
  · exact exists_sameDetails? hd he
  · exact ⟨false, rfl⟩

end FieldError

namespace Changeset

variable {c d : Changeset}

/-- A changeset with its errors emptied. -/
def cleared (c : Changeset) : Changeset := { c with errors := [] }

theorem sameInput_cleared (c : Changeset) : c.SameInput c.cleared := ⟨rfl, rfl, rfl⟩

theorem isValid_iff : c.isValid = true ↔ ∀ field, ¬ c.hasErrorOn field = true := by
  unfold isValid hasErrorOn
  cases c.errors with
  | nil => simp
  | cons e es => simpa using ⟨e.field, by simp⟩

theorem isValid_eq_of_hasErrorOn (h : ∀ field, d.hasErrorOn field = c.hasErrorOn field) :
    d.isValid = c.isValid := by
  rw [Bool.eq_iff_iff, isValid_iff, isValid_iff]
  simp only [h]

theorem mem_errors_addError {e e' : FieldError} (h : e' ∈ (c.addError e).errors) :
    e' ∈ c.errors ∨ e' = e := by
  rcases c.addError_cases e with ⟨-, heq⟩ | ⟨-, heq⟩
  · rw [heq] at h
    exact .inl h
  · rw [heq] at h
    simpa using h

theorem mem_errors_foldl_addError {es : List FieldError} {e : FieldError}
    (h : e ∈ (es.foldl addError c).errors) : e ∈ c.errors ∨ e ∈ es := by
  induction es generalizing c with
  | nil => exact .inl h
  | cons e' es ih =>
      rcases ih h with h | h
      · rcases mem_errors_addError h with h | rfl
        · exact .inl h
        · exact .inr List.mem_cons_self
      · exact .inr (List.mem_cons_of_mem e' h)

theorem mem_errors_foldl_withRequired {message : String} {fields : List String} {e : FieldError}
    (h : e ∈ (fields.foldl (withRequired message) c).errors) :
    e ∈ c.errors ∨ e.details = [] := by
  induction fields generalizing c with
  | nil => exact .inl h
  | cons name fields ih =>
      rcases ih h with h | h
      · unfold withRequired at h
        split at h
        · rcases mem_errors_addError h with h | rfl
          · exact .inl h
          · exact .inr rfl
        · exact .inl h
      · exact .inr h

/-- Errors that can be compared to those before them are added. -/
theorem foldlM_addDistinct_of_comparable {es : List FieldError}
    (hold : ∀ d ∈ c.errors, ∀ e ∈ es, d.Comparable e) (hnew : es.Pairwise FieldError.Comparable) :
    es.foldlM addDistinct c = .ok (es.foldl addError c) := by
  induction es generalizing c with
  | nil => rfl
  | cons e es ih =>
      obtain ⟨he, hnew⟩ := List.pairwise_cons.mp hnew
      have hadd : c.addDistinct e = .ok (c.addError e) :=
        addDistinct_eq_ok_iff.mpr
          ⟨Value.exists_anyOf? fun d hd => hold d hd e List.mem_cons_self, rfl⟩
      rw [List.foldlM_cons, hadd, List.foldl_cons]
      refine ih ?_ hnew
      intro d hd e' he'
      rcases mem_errors_addError hd with hd | rfl
      · exact hold d hd e' (List.mem_cons_of_mem e he')
      · exact he e' he'

/-- What one validation finds can be compared among itself. -/
theorem Telling.pairwise_comparable {bounds : List Value} {es : List FieldError}
    (h : Telling bounds es) : es.Pairwise FieldError.Comparable := by
  rcases h with hnil | ⟨e, b, rfl, -, -⟩
  · refine List.pairwise_of_forall_mem_list ?_
    intro d _ e he
    exact FieldError.exists_same?_of_details_nil (hnil e he) d
  · exact List.pairwise_singleton _ e

theorem Telling.isQuiet {bounds : List Value} {es : List FieldError} (h : Telling bounds es)
    (hbounds : ∀ b ∈ bounds, b.isQuiet = true) : ∀ e ∈ es, e.isQuiet = true := by
  intro e he
  refine Value.entriesQuiet_iff.mpr fun p hp => ?_
  rcases h.mem_details he hp with hb | ⟨text, htext⟩
  · exact hbounds p.2 hb
  · rw [htext]
    rfl

end Changeset

namespace Check

variable {k : Check} {c : Changeset}

/-- What is found can be compared to the errors that are there, and among itself. -/
structure Compares (k : Check) (c : Changeset) : Prop where
  before : ∀ d ∈ c.errors, ∀ e ∈ k.found, d.Comparable e
  among : k.found.Pairwise FieldError.Comparable

theorem Applies.run_of_compares (h : k.Applies c) (hcompares : k.Compares c) :
    k.run c = .ok (k.applied c) := by
  cases k with
  | validation field name failures =>
      obtain ⟨es, rfl⟩ := h
      exact Changeset.foldlM_addDistinct_of_comparable
        (c := c.addValidation field name) hcompares.before hcompares.among
  | required => exact run_required h
  | constraint => exact run_constraint h

theorem mem_errors_applied {e : FieldError} (h : e ∈ (k.applied c).errors) :
    e ∈ c.errors ∨ e ∈ k.found ∨ e.details = [] := by
  cases k with
  | validation field name failures =>
      exact (Changeset.mem_errors_foldl_addError h).imp_right Or.inl
  | required => exact (Changeset.mem_errors_foldl_withRequired h).imp_right Or.inr
  | constraint => exact .inl h

end Check

/-! ## One stage -/

namespace Stage

variable {s : Stage} {c d : Changeset}

/-- A stage makes a check that makes sense. -/
def Applies (s : Stage) (c : Changeset) : Prop := ∃ k, s.check? c = some k ∧ k.Applies c

/-- A stage finds something wrong with a field, whatever was found before. -/
def Reports (s : Stage) (c : Changeset) (field : String) : Prop :=
  ∃ k, s.check? c = some k ∧ k.Reports c field

theorem Applies.of_sameInput (h : c.SameInput d) (hs : s.Applies c) : s.Applies d := by
  obtain ⟨k, hk, happlies⟩ := hs
  exact ⟨k, (check?_of_sameInput s h).trans hk, happlies.of_sameInput h⟩

theorem Reports.of_sameInput (h : c.SameInput d) {field : String} (hs : s.Reports c field) :
    s.Reports d field := by
  obtain ⟨k, hk, hreports⟩ := hs
  exact ⟨k, (check?_of_sameInput s h).trans hk, hreports.of_sameInput h⟩

theorem reports_iff_of_sameInput (h : c.SameInput d) (field : String) :
    s.Reports d field ↔ s.Reports c field := ⟨.of_sameInput h.symm, .of_sameInput h⟩

/-- What a stage that checks makes of a changeset. -/
theorem run_isCheck (hcheck : s.isCheck = true) (h : s.run c = .ok d) :
    s.Applies c ∧ c.Annotates d ∧
      ∀ field, d.hasErrorOn field = true ↔ c.hasErrorOn field = true ∨ s.Reports c field := by
  obtain ⟨k, hk⟩ := exists_check? hcheck c
  rw [run_of_check? hk] at h
  obtain ⟨happlies, rfl⟩ := Check.applied_of_run h
  refine ⟨⟨k, hk, happlies⟩, k.annotates_applied c, ?_⟩
  intro field
  rw [Check.hasErrorOn_applied]
  refine or_congr_right ⟨fun hreports => ⟨k, hk, hreports⟩, ?_⟩
  rintro ⟨k', hk', hreports⟩
  rw [Option.some.inj (hk.symm.trans hk')]
  exact hreports

/-- A stage that makes sense gives a changeset, unless a comparison of two errors is refused. -/
theorem Applies.run (h : s.Applies c) :
    Succeeds (s.run c) ∨ s.run c = .error (.comparison .refused) := by
  obtain ⟨k, hk, happlies⟩ := h
  rw [run_of_check? hk]
  exact happlies.run.imp (fun hrun => ⟨_, hrun⟩) id

/-- A stage that makes sense gives a changeset on its own. -/
theorem Applies.succeeds_cleared (h : s.Applies c) : Succeeds (s.run c.cleared) := by
  obtain ⟨k, hk, happlies⟩ := h.of_sameInput c.sameInput_cleared
  rw [run_of_check? hk]
  exact ⟨_, happlies.run_of_compares ⟨nofun, (telling_found hk).pairwise_comparable⟩⟩

/-- Without a signaling NaN a stage that makes sense gives a changeset, and brings none in. -/
theorem Applies.succeeds_of_isQuiet (h : s.Applies c) (hbounds : ∀ b ∈ s.bounds, b.isQuiet = true)
    (herrors : ∀ e ∈ c.errors, e.isQuiet = true) :
    ∃ d, s.run c = .ok d ∧ ∀ e ∈ d.errors, e.isQuiet = true := by
  obtain ⟨k, hk, happlies⟩ := h
  have htelling := telling_found hk
  have hfound := htelling.isQuiet hbounds
  have hcompares : k.Compares c :=
    ⟨fun d hd e he => FieldError.comparable_of_isQuiet (herrors d hd) (hfound e he),
      htelling.pairwise_comparable⟩
  refine ⟨k.applied c, (run_of_check? hk).trans (happlies.run_of_compares hcompares), ?_⟩
  intro e he
  rcases Check.mem_errors_applied he with he | he | he
  · exact herrors e he
  · exact hfound e he
  · rw [FieldError.isQuiet, he]
    rfl

/-- What a stage that makes sense finds wrong, it finds on its own. -/
theorem Applies.reports_iff (h : s.Applies c) (hcheck : s.isCheck = true) (field : String) :
    s.Reports c field ↔ ∃ a, s.run c.cleared = .ok a ∧ a.hasErrorOn field = true := by
  have halone : ∀ a, s.run c.cleared = .ok a →
      (a.hasErrorOn field = true ↔ s.Reports c field) := by
    intro a ha
    obtain ⟨-, -, herrors⟩ := run_isCheck hcheck ha
    have hclear : ¬ c.cleared.hasErrorOn field = true := Bool.false_ne_true
    rw [herrors field, reports_iff_of_sameInput c.sameInput_cleared]
    exact or_iff_right hclear
  constructor
  · intro hreports
    obtain ⟨a, ha⟩ := h.succeeds_cleared
    exact ⟨a, ha, (halone a ha).mpr hreports⟩
  · rintro ⟨a, ha, herror⟩
    exact (halone a ha).mp herror

/-! ## A pipeline -/

variable {stages : List Stage}

/-- What a pipeline of checks makes of a changeset. -/
theorem runAll_isCheck (hchecks : ∀ s ∈ stages, s.isCheck = true) (h : runAll stages c = .ok d) :
    (∀ s ∈ stages, s.Applies c) ∧ c.Annotates d ∧
      ∀ field, d.hasErrorOn field = true ↔
        c.hasErrorOn field = true ∨ ∃ s ∈ stages, s.Reports c field := by
  induction stages generalizing c with
  | nil =>
      cases h
      exact ⟨nofun, .refl _, fun field => by simp⟩
  | cons s stages ih =>
      obtain ⟨hcheck, hchecks⟩ := List.forall_mem_cons.mp hchecks
      rw [runAll, List.foldlM_cons, bind_eq_ok_iff] at h
      obtain ⟨c', hs, h⟩ := h
      obtain ⟨happlies, hannotates, hreports⟩ := run_isCheck hcheck hs
      obtain ⟨hrest, hd, hreported⟩ := ih hchecks h
      -- the rest of the pipeline reads what the first stage has left as it was
      have hinput := hannotates.sameInput
      refine ⟨?_, hannotates.trans hd, ?_⟩
      · exact List.forall_mem_cons.mpr
          ⟨happlies, fun t ht => (hrest t ht).of_sameInput hinput.symm⟩
      · intro field
        rw [hreported, hreports, or_assoc]
        simp only [reports_iff_of_sameInput hinput, List.exists_mem_cons_iff]

/-- A pipeline of stages that make sense gives a changeset, unless a comparison of two errors is
refused. -/
theorem runAll_of_applies (h : ∀ s ∈ stages, s.isCheck = true ∧ s.Applies c) :
    Succeeds (runAll stages c) ∨ runAll stages c = .error (.comparison .refused) := by
  induction stages generalizing c with
  | nil => exact .inl ⟨c, rfl⟩
  | cons s stages ih =>
      obtain ⟨⟨hcheck, happlies⟩, hrest⟩ := List.forall_mem_cons.mp h
      rw [runAll, List.foldlM_cons]
      rcases happlies.run with ⟨c', hs⟩ | hs
      · obtain ⟨-, hannotates, -⟩ := run_isCheck hcheck hs
        rw [hs]
        exact ih fun t ht => (hrest t ht).imp_right (·.of_sameInput hannotates.sameInput)
      · rw [hs]
        exact .inr rfl

/-- Without a signaling NaN a pipeline of stages that make sense gives a changeset. -/
theorem succeeds_runAll (h : ∀ s ∈ stages, s.isCheck = true ∧ s.Applies c)
    (hbounds : ∀ s ∈ stages, ∀ b ∈ s.bounds, b.isQuiet = true)
    (herrors : ∀ e ∈ c.errors, e.isQuiet = true) : Succeeds (runAll stages c) := by
  induction stages generalizing c with
  | nil => exact ⟨c, rfl⟩
  | cons s stages ih =>
      obtain ⟨⟨hcheck, happlies⟩, hrest⟩ := List.forall_mem_cons.mp h
      obtain ⟨hquiet, hbounds⟩ := List.forall_mem_cons.mp hbounds
      obtain ⟨c', hs, herrors⟩ := happlies.succeeds_of_isQuiet hquiet herrors
      obtain ⟨-, hannotates, -⟩ := run_isCheck hcheck hs
      rw [runAll, List.foldlM_cons, hs]
      exact ih (fun t ht => (hrest t ht).imp_right (·.of_sameInput hannotates.sameInput))
        hbounds herrors

/-- The stages in another order find something wrong with the same fields. -/
theorem hasErrorOn_runAll_perm {others : List Stage} {e : Changeset}
    (hchecks : ∀ s ∈ stages, s.isCheck = true) (h : runAll stages c = .ok d)
    (hperm : stages.Perm others) (he : runAll others c = .ok e) (field : String) :
    e.hasErrorOn field = d.hasErrorOn field := by
  obtain ⟨-, -, hreports⟩ := runAll_isCheck hchecks h
  obtain ⟨-, -, hreported⟩ := runAll_isCheck (fun s hs => hchecks s (hperm.mem_iff.mpr hs)) he
  rw [Bool.eq_iff_iff, hreports, hreported]
  simp only [hperm.mem_iff]

/-- The stages in another order give a changeset, unless a comparison of two errors is refused
there, which takes a signaling NaN. -/
theorem runAll_perm {others : List Stage} (hchecks : ∀ s ∈ stages, s.isCheck = true)
    (h : runAll stages c = .ok d) (hperm : stages.Perm others) :
    Succeeds (runAll others c) ∨
      runAll others c = .error (.comparison .refused) ∧
        ((∃ e ∈ c.errors, e.isQuiet = false) ∨
          ∃ s ∈ stages, ∃ b ∈ s.bounds, b.isQuiet = false) := by
  obtain ⟨happlies, -, -⟩ := runAll_isCheck hchecks h
  have hothers : ∀ s ∈ others, s.isCheck = true ∧ s.Applies c := by
    intro s hs
    have hmem := hperm.mem_iff.mpr hs
    exact ⟨hchecks s hmem, happlies s hmem⟩
  rcases runAll_of_applies hothers with hrun | hrefused
  · exact .inl hrun
  · refine .inr ⟨hrefused, ?_⟩
    by_contra hquiet
    simp only [not_or, not_exists, not_and, Bool.not_eq_false] at hquiet
    obtain ⟨a, ha⟩ := succeeds_runAll hothers
      (fun s hs => hquiet.2 s (hperm.mem_iff.mpr hs)) hquiet.1
    rw [hrefused] at ha
    cases ha

/-- A pipeline of checks finds something wrong where it was found before and where one of its stages
finds it on its own. So the stages in another order find the same, unless a comparison of two errors
is refused there, which takes a signaling NaN. -/
theorem verdict_runAll (hchecks : ∀ s ∈ stages, s.isCheck = true)
    (h : runAll stages c = .ok d) :
    (∀ s ∈ stages, Succeeds (s.run c.cleared)) ∧
      (d.isValid = true ↔ c.isValid = true ∧
        ∀ s ∈ stages, ∀ a, s.run c.cleared = .ok a → a.isValid = true) ∧
      (∀ field, d.hasErrorOn field = true ↔ c.hasErrorOn field = true ∨
        ∃ s ∈ stages, ∃ a, s.run c.cleared = .ok a ∧ a.hasErrorOn field = true) ∧
      ∀ others, stages.Perm others →
        (∃ e, runAll others c = .ok e ∧ e.isValid = d.isValid ∧
          ∀ field, e.hasErrorOn field = d.hasErrorOn field) ∨
        runAll others c = .error (.comparison .refused) ∧
          ((∃ e ∈ c.errors, e.isQuiet = false) ∨
            ∃ s ∈ stages, ∃ b ∈ s.bounds, b.isQuiet = false) := by
  obtain ⟨happlies, -, hreports⟩ := runAll_isCheck hchecks h
  have hfields : ∀ field, d.hasErrorOn field = true ↔ c.hasErrorOn field = true ∨
      ∃ s ∈ stages, ∃ a, s.run c.cleared = .ok a ∧ a.hasErrorOn field = true := by
    intro field
    rw [hreports]
    refine or_congr_right (exists_congr fun s => and_congr_right fun hs => ?_)
    exact (happlies s hs).reports_iff (hchecks s hs) field
  refine ⟨fun s hs => (happlies s hs).succeeds_cleared, ?_, hfields, ?_⟩
  · simp only [Changeset.isValid_iff, hfields]
    constructor
    · intro hnone
      refine ⟨fun field herror => hnone field (.inl herror), ?_⟩
      intro s hs a ha field herror
      exact hnone field (.inr ⟨s, hs, a, ha, herror⟩)
    · rintro ⟨hc, hstages⟩ field (herror | ⟨s, hs, a, ha, herror⟩)
      · exact hc field herror
      · exact hstages s hs a ha field herror
  · intro others hperm
    rcases runAll_perm hchecks h hperm with ⟨e, he⟩ | hrefused
    · have hsame := hasErrorOn_runAll_perm hchecks h hperm he
      exact .inl ⟨e, he, Changeset.isValid_eq_of_hasErrorOn hsame, hsame⟩
    · exact .inr hrefused

/-- A field that is neither given nor accepted has one error if it is checked for acceptance first,
and two if it is required first: the same fields have errors. -/
theorem verdict_runAll_acceptance :
    let schema : Descriptor := ⟨"Account", "accounts",
      [⟨"id", .integer, false, .null, true⟩, ⟨"terms", .boolean, false, .null, false⟩], [], "id",
      by decide, by decide⟩
    let c := Changeset.start ⟨schema, [], .built⟩
    let accepted := Stage.validateAcceptance "terms" none
    let required := Stage.validateRequired ["terms"] none
    ∃ d e, runAll [accepted, required] c = .ok d ∧ runAll [required, accepted] c = .ok e ∧
      d.errors.length = 1 ∧ e.errors.length = 2 ∧ e.isValid = d.isValid ∧
      ∀ field, e.hasErrorOn field = d.hasErrorOn field := by
  intro schema c accepted required
  obtain ⟨d, hd, hone⟩ : ∃ d, runAll [accepted, required] c = .ok d ∧ d.errors.length = 1 :=
    ⟨_, rfl, by decide⟩
  obtain ⟨e', he', htwo⟩ : ∃ e, runAll [required, accepted] c = .ok e ∧ e.errors.length = 2 :=
    ⟨_, rfl, by decide⟩
  have hchecks : ∀ s ∈ [accepted, required], s.isCheck = true := by simp [accepted, required, isCheck]
  obtain ⟨-, -, -, hperm⟩ := verdict_runAll hchecks hd
  rcases hperm [required, accepted] (.swap required accepted []) with ⟨e, he, hvalid, hfields⟩ | h
  · cases he'.symm.trans he
    exact ⟨d, e', hd, he', hone, htwo, hvalid, hfields⟩
  · cases he'.symm.trans h.1

end Stage

end RecordMapper
