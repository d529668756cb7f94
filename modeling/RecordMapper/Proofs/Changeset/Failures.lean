import RecordMapper.Proofs.Changeset.Check

/-! # What a validation finds wrong

Most errors have no details. Only a length and a number are held against bounds; then at most one
error is found, and its details are the bound that is broken and a text. -/

namespace RecordMapper

open Outcome

/-- The details of an error are a bound and a text. -/
def FieldError.TellsBound (e : FieldError) (bound : Value) : Prop :=
  ∃ text, e.details = [("count", bound), ("kind_of", .string text)] ∨
    e.details = [("kind_of", .string text), ("number", bound)]

namespace Changeset

variable {field : String} {message : Option String} {v : Value}

/-- Errors without details, or one error that tells one of some bounds. -/
def Telling (bounds : List Value) (es : List FieldError) : Prop :=
  (∀ e ∈ es, e.details = []) ∨ ∃ e b, es = [e] ∧ b ∈ bounds ∧ e.TellsBound b

theorem telling_nil (bounds : List Value) : Telling bounds [] := .inl nofun

theorem telling_ite {bounds : List Value} {p : Prop} [Decidable p] {es es' : List FieldError}
    (h : Telling bounds es) (h' : Telling bounds es') : Telling bounds (if p then es else es') := by
  split
  · exact h
  · exact h'

/-- An error without details. -/
theorem telling_failure (bounds : List Value) (field message validation : String) :
    Telling bounds [failure field message validation []] := by
  refine .inl ?_
  intro e he
  rw [List.mem_singleton.mp he]
  rfl

theorem telling_of_ofNewValue {c : Changeset} {bounds : List Value} {failures : Value → Failures}
    (hfailures : ∀ v es, failures v = .ok es → Telling bounds es) {es : List FieldError}
    (h : c.ofNewValue field failures = .ok es) : Telling bounds es := by
  unfold ofNewValue at h
  split at h
  · cases h
    exact telling_nil bounds
  · exact hfailures _ es h

/-! ## Lengths and numbers -/

theorem eq_of_breaks {bound : Option Value} {isBroken : Value → Except ComparisonError Bool}
    {n : Value} (h : lengthFault.breaks bound isBroken = .ok (some n)) : bound = some n := by
  unfold lengthFault.breaks at h
  split at h
  · cases h
  · simp only [bind_eq_ok_iff, pure_eq_ok_iff] at h
    obtain ⟨broken, -, h⟩ := h
    split at h
    · exact h
    · cases h

/-- The bound that a length breaks is one of the bounds. -/
theorem mem_of_lengthFault {length : Value} {bounds : LengthBounds} {bound said : String}
    {limit : Value} (h : lengthFault length bounds = .ok (some (bound, said, limit))) :
    limit ∈ bounds.exactly.toList ++ bounds.least.toList ++ bounds.most.toList := by
  simp only [lengthFault, bind_eq_ok_iff] at h
  obtain ⟨exactly, hexactly, h⟩ := h
  split at h
  · cases h
    simp [eq_of_breaks hexactly]
  · rw [bind_eq_ok_iff] at h
    obtain ⟨least, hleast, h⟩ := h
    split at h
    · cases h
      simp [eq_of_breaks hleast]
    · rw [bind_eq_ok_iff] at h
      obtain ⟨most, hmost, h⟩ := h
      split at h
      · cases h
        simp [eq_of_breaks hmost]
      · cases h

theorem telling_of_lengthFailures {bounds : LengthBounds} {es : List FieldError}
    (h : lengthFailures field bounds message v = .ok es) :
    Telling (bounds.exactly.toList ++ bounds.least.toList ++ bounds.most.toList) es := by
  unfold lengthFailures at h
  split at h
  · cases h
  · rw [bind_eq_ok_iff] at h
    obtain ⟨fault, hfault, h⟩ := h
    split at h
    · cases h
      exact telling_nil _
    · rename_i bound said limit
      cases h
      exact .inr ⟨_, limit, rfl, mem_of_lengthFault hfault, bound, .inl rfl⟩

/-- The check that fails is one of the checks. -/
theorem mem_of_failedCheck {checks : List (NumberCheck × Value)} {x : NumberCheck × Value}
    (h : failedCheck v checks = .ok (some x)) : x ∈ checks := by
  induction checks with
  | nil => cases h
  | cons y checks ih =>
      rw [failedCheck] at h
      split at h
      · cases h
      · exact List.mem_cons_of_mem y (ih h)
      · cases h
        exact List.mem_cons_self

/-- The checks of some names have the bounds that were given. -/
theorem map_snd_checksOf {row : Row Value} {checks : List (NumberCheck × Value)}
    (h : checksOf row = .ok checks) : checks.map Prod.snd = row.map Prod.snd := by
  induction row generalizing checks with
  | nil =>
      cases h
      rfl
  | cons x row ih =>
      rw [checksOf] at h
      split at h
      · cases h
      · simp only [bind_eq_ok_iff, pure_eq_ok_iff] at h
        obtain ⟨rest, hrest, rfl⟩ := h
        rw [List.map_cons, List.map_cons, ih hrest]

theorem mem_of_mem_erase {row : Row Value} {name : String} {x : String × Value}
    (h : x ∈ row.erase name) : x ∈ row := by
  induction row with
  | nil => cases h
  | cons y row ih =>
      rw [Row.erase] at h
      split at h
      · exact List.mem_cons_of_mem y (ih h)
      · rcases List.mem_cons.mp h with rfl | h
        · exact List.mem_cons_self
        · exact List.mem_cons_of_mem y (ih h)

theorem subset_of_takeOption {name : String} {given option : Option String}
    {row rest : Row Value} (h : takeOption name given row = .ok (option, rest)) : rest ⊆ row := by
  unfold takeOption at h
  split at h
  · cases h
    exact List.Subset.refl row
  · cases h
    exact fun x => mem_of_mem_erase
  · cases h
    exact fun x => mem_of_mem_erase
  · cases h

theorem telling_of_checkFailures {checks : List (NumberCheck × Value)} {es : List FieldError}
    (h : checkFailures field checks message v = .ok es) :
    Telling (checks.map Prod.snd) es := by
  simp only [checkFailures, bind_eq_ok_iff] at h
  obtain ⟨failed, hfailed, h⟩ := h
  split at h
  · cases h
    exact telling_nil _
  · rename_i check bound
    cases h
    have hmem : bound ∈ checks.map Prod.snd := List.mem_map_of_mem (mem_of_failedCheck hfailed)
    exact .inr ⟨_, bound, rfl, hmem, check.name, .inr rfl⟩

theorem Telling.mono {bounds bounds' : List Value} {es : List FieldError} (h : Telling bounds es)
    (hsubset : bounds ⊆ bounds') : Telling bounds' es := by
  rcases h with hnil | ⟨e, b, rfl, hb, he⟩
  · exact .inl hnil
  · exact .inr ⟨e, b, rfl, hsubset hb, he⟩

/-- Every detail is one of the bounds or a text. -/
theorem Telling.mem_details {bounds : List Value} {es : List FieldError} (h : Telling bounds es)
    {e : FieldError} (he : e ∈ es) {p : String × Value} (hp : p ∈ e.details) :
    p.2 ∈ bounds ∨ ∃ text, p.2 = .string text := by
  rcases h with hnil | ⟨e', b, rfl, hb, text, hdetails | hdetails⟩
  · rw [hnil e he] at hp
    cases hp
  · rw [List.mem_singleton.mp he, hdetails, List.mem_pair] at hp
    rcases hp with rfl | rfl
    · exact .inl hb
    · exact .inr ⟨text, rfl⟩
  · rw [List.mem_singleton.mp he, hdetails, List.mem_pair] at hp
    rcases hp with rfl | rfl
    · exact .inr ⟨text, rfl⟩
    · exact .inl hb

theorem telling_of_numberFailures {c : Changeset} {checks : Row Value} {es : List FieldError}
    (h : c.numberFailures field checks message = .ok es) :
    Telling (checks.map Prod.snd) es := by
  unfold numberFailures at h
  split at h
  · cases h
  · simp only [bind_eq_ok_iff] at h
    obtain ⟨⟨message, rest⟩, hrest, known, hknown, h⟩ := h
    have htelling := telling_of_ofNewValue (fun v es => telling_of_checkFailures) h
    rw [map_snd_checksOf hknown] at htelling
    exact htelling.mono (List.map_subset Prod.snd (subset_of_takeOption hrest))

/-! ## All others -/

theorem telling_of_formatFailures {search : Search} {es : List FieldError}
    (h : formatFailures field search message v = .ok es) : Telling [] es := by
  simp only [formatFailures, bind_eq_ok_iff, pure_eq_ok_iff] at h
  obtain ⟨found, -, rfl⟩ := h
  exact telling_ite (telling_nil []) (telling_failure [] field _ "format")

theorem telling_of_membershipFailures {validation said : String} {values : List Value}
    {wanted : Bool} {es : List FieldError}
    (h : membershipFailures field validation values wanted said v = .ok es) : Telling [] es := by
  simp only [membershipFailures, bind_eq_ok_iff, pure_eq_ok_iff] at h
  obtain ⟨found, -, rfl⟩ := h
  exact telling_ite (telling_nil []) (telling_failure [] field said validation)

theorem telling_of_confirmationFailures {c : Changeset} {required : Bool} {es : List FieldError}
    (h : c.confirmationFailures field required message = .ok es) : Telling [] es := by
  unfold confirmationFailures at h
  split at h
  · cases h
    exact telling_nil []
  · rename_i v hv
    by_cases hnull : (c.confirmation (confirmationName field)).isNull = true
    · rw [if_pos hnull] at h
      cases h
      exact telling_ite (telling_failure [] _ _ _) (telling_nil [])
    · rw [if_neg hnull] at h
      simp only [bind_eq_ok_iff, pure_eq_ok_iff] at h
      obtain ⟨agree, -, rfl⟩ := h
      exact telling_ite (telling_nil []) (telling_failure [] _ _ _)

theorem telling_of_acceptanceFailures {c : Changeset} {es : List FieldError}
    (h : c.acceptanceFailures field message = .ok es) : Telling [] es := by
  simp only [acceptanceFailures, bind_eq_ok_iff, pure_eq_ok_iff] at h
  obtain ⟨v, -, rfl⟩ := h
  exact telling_ite (telling_nil []) (telling_failure [] _ _ _)

theorem telling_of_ownFailures {c : Changeset}
    {validator : Value → Except StageError (List Finding)} {validation : String}
    {es : List FieldError} (h : c.ownFailures field validator validation = .ok es) :
    Telling [] es := by
  simp only [ownFailures, bind_eq_ok_iff] at h
  obtain ⟨-, -, h⟩ := h
  refine telling_of_ofNewValue ?_ h
  intro v es hes
  simp only [bind_eq_ok_iff, pure_eq_ok_iff] at hes
  obtain ⟨findings, -, rfl⟩ := hes
  refine .inl ?_
  intro e he
  obtain ⟨finding, -, rfl⟩ := List.mem_map.mp he
  rfl

end Changeset

open Changeset in
/-- What a stage finds wrong has no details, or it is one error that tells a bound of the stage. -/
theorem Stage.telling_found {s : Stage} {c : Changeset} {k : Check} (h : s.check? c = some k) :
    Telling s.bounds k.found := by
  have hfailures : ∀ {bounds : List Value} {field validation : String} {failures : Failures},
      (∀ es, failures = .ok es → Telling bounds es) →
        Telling bounds (Check.validation field validation failures).found := by
    intro bounds field validation failures htelling
    cases failures with
    | error e => exact telling_nil bounds
    | ok es => exact htelling es rfl
  unfold check? at h
  split at h
  · cases h
    exact telling_nil _
  · cases h
    exact hfailures fun es => telling_of_ofNewValue fun v es => telling_of_lengthFailures
  · cases h
    exact hfailures fun es => telling_of_ofNewValue fun v es => telling_of_formatFailures
  · cases h
    exact hfailures fun es => telling_of_ofNewValue fun v es => telling_of_membershipFailures
  · cases h
    exact hfailures fun es => telling_of_ofNewValue fun v es => telling_of_membershipFailures
  · cases h
    exact hfailures fun es => telling_of_numberFailures
  · cases h
    exact hfailures fun es => telling_of_confirmationFailures
  · cases h
    exact hfailures fun es => telling_of_acceptanceFailures
  · cases h
    exact hfailures fun es => telling_of_ownFailures
  · cases h
    exact telling_nil _
  · cases h

end RecordMapper
