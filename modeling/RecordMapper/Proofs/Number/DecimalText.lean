import RecordMapper.Number.Decimal
import RecordMapper.Proofs.Text.Numerals

/-! # Reading the text of a decimal number

The text of a decimal number keeps its form: sign, coefficient and exponent are read off it, so two
numbers with one text are the same number in the same form. -/

namespace RecordMapper.Number.Decimal

open Text

/-! ## Digits -/

theorem spanDigits_append (acc count : Nat) {ds : List Char} (hds : ∀ c ∈ ds, c.isDigit = true)
    (rest : List Char) :
    spanDigits acc count (ds ++ rest) =
      spanDigits (digitsValue acc ds) (count + ds.length) rest := by
  induction ds generalizing acc count with
  | nil => rfl
  | cons d ds ih =>
      have hd : digit? d = some (d.toNat - 48) := digit?_of_isDigit (hds d (by simp))
      rw [List.cons_append, spanDigits, hd]
      dsimp only
      rw [ih _ _ fun c hc => hds c (by simp [hc]), digitsValue, hd, List.length_cons,
        Nat.add_right_comm, Nat.add_assoc]
      rfl

/-- Digits end where the exponent begins. -/
theorem spanDigits_exponentText (acc count : Nat) (k : Int) :
    spanDigits acc count (exponentText k) = (acc, count, exponentText k) := by
  rw [exponentText]
  split
  · rfl
  · have hletter : digit? 'E' = none := by decide
    rw [spanDigits, hletter]

theorem spanDigits_point (acc count : Nat) (cs : List Char) :
    spanDigits acc count ('.' :: cs) = (acc, count, '.' :: cs) := by
  have hpoint : digit? '.' = none := by decide
  rw [spanDigits, hpoint]

theorem readExponent_exponentText (k : Int) : readExponent (exponentText k) = some k := by
  have hdigits : spanDigits 0 0 (numeral k.natAbs) = (k.natAbs, digitCount k.natAbs, []) := by
    have h := spanDigits_append 0 0 (fun c => isDigit_of_mem_numeral (n := k.natAbs)) []
    simpa [digitsValue_numeral, spanDigits, digitCount] using h
  have hcount : digitCount k.natAbs ≠ 0 := by
    simpa [digitCount] using numeral_ne_nil k.natAbs
  rw [exponentText]
  split
  · rename_i hk
    rw [hk]
    rfl
  · by_cases hneg : k < 0
    · have hnumber : -(k.natAbs : Int) = k := by omega
      simp only [if_pos hneg, readExponent, or_true, if_true, hdigits, if_neg hcount, hnumber]
    · have hnumber : (k.natAbs : Int) = k := by omega
      simp only [if_neg hneg, readExponent, or_true, if_true, hdigits, if_neg hcount,
        Bool.false_eq_true, if_false, hnumber]

/-! ## Coefficient and exponent -/

section

variable {ds : List Char} (hne : ds ≠ []) (hds : ∀ c ∈ ds, c.isDigit = true)

include hne hds

theorem readForm_whole (k : Int) :
    readForm (ds ++ exponentText k) = some (digitsValue 0 ds, k) := by
  have hspan : spanDigits 0 0 (ds ++ exponentText k) =
      (digitsValue 0 ds, ds.length, exponentText k) := by
    rw [spanDigits_append 0 0 hds, spanDigits_exponentText, Nat.zero_add]
  have hlength : ds.length ≠ 0 := by simpa using hne
  rw [exponentText] at hspan ⊢
  split at hspan
  · rename_i hk
    subst hk
    simp only [if_true, readForm, hspan]
    simp [hlength, readExponent]
  · rename_i hk
    have hexponent := readExponent_exponentText k
    rw [exponentText, if_neg hk] at hexponent
    simp only [if_neg hk, readForm, hspan]
    simp [hlength, hexponent]

theorem readForm_point {es : List Char} (hes : ∀ c ∈ es, c.isDigit = true) (k : Int) :
    readForm (ds ++ '.' :: (es ++ exponentText k)) =
      some (digitsValue 0 (ds ++ es), k - es.length) := by
  have hspan : spanDigits 0 0 (ds ++ '.' :: (es ++ exponentText k)) =
      (digitsValue 0 ds, ds.length, '.' :: (es ++ exponentText k)) := by
    rw [spanDigits_append 0 0 hds, spanDigits_point, Nat.zero_add]
  have hplaces : spanDigits (digitsValue 0 ds) 0 (es ++ exponentText k) =
      (digitsValue 0 (ds ++ es), es.length, exponentText k) := by
    rw [spanDigits_append _ 0 hes, spanDigits_exponentText, Nat.zero_add, digitsValue_append]
  have hlength : ds.length + es.length ≠ 0 := by
    simpa using fun h => absurd h hne
  simp only [readForm, hspan, hplaces, if_neg hlength, readExponent_exponentText, Option.map_some]

end

/-- The digits of a text stand in it as they are, or with zeros before them and a point among
them. -/
theorem digitsText_eq {ds : List Char} (hne : ds ≠ []) (e : Int) :
    digitsText ds e = ds ++ exponentText e ∨
      ∃ zeros fs es k, fs ≠ [] ∧ fs ++ es = List.replicate zeros '0' ++ ds ∧
        e = k - (es.length : Int) ∧ digitsText ds e = fs ++ '.' :: (es ++ exponentText k) := by
  have hlength : 0 < ds.length := List.length_pos_iff.mpr hne
  have hnone : exponentText 0 = [] := rfl
  unfold digitsText
  dsimp only
  split
  · split
    · obtain rfl : e = 0 := by omega
      exact .inl (by rw [hnone, List.append_nil])
    · split
      · -- all digits stand after the point
        refine .inr ⟨(-e).toNat - ds.length + 1, ['0'],
          List.replicate ((-e).toNat - ds.length) '0' ++ ds, 0, by simp, rfl, ?_, ?_⟩
        · simp only [List.length_append, List.length_replicate]
          omega
        · simp [hnone]
      · refine .inr ⟨0, ds.take (ds.length - (-e).toNat), ds.drop (ds.length - (-e).toNat), 0,
          ?_, by simp, ?_, ?_⟩
        · rw [← List.length_pos_iff, List.length_take]
          omega
        · rw [List.length_drop]
          omega
        · simp [hnone]
  · match ds, hne with
    | [d], _ => exact .inl (by simp [pointed])
    | d :: d' :: ds, _ =>
        refine .inr ⟨0, [d], d' :: ds, e + (d :: d' :: ds).length - 1, by simp, rfl, ?_, rfl⟩
        simp only [List.length_cons]
        omega

theorem isDigit_of_mem_zeros_append {zeros : Nat} {ds : List Char}
    (hds : ∀ c ∈ ds, c.isDigit = true) {c : Char} (h : c ∈ List.replicate zeros '0' ++ ds) :
    c.isDigit = true := by
  rcases List.mem_append.mp h with h | h
  · rw [(List.mem_replicate.mp h).2]
    rfl
  · exact hds c h

/-- The text of digits and an exponent gives back what the digits denote, and the exponent. -/
theorem readForm_digitsText {ds : List Char} (hne : ds ≠ [])
    (hds : ∀ c ∈ ds, c.isDigit = true) (e : Int) :
    readForm (digitsText ds e) = some (digitsValue 0 ds, e) := by
  rcases digitsText_eq hne e with htext | ⟨zeros, fs, es, k, hfs, hdigits, rfl, htext⟩
  · rw [htext, readForm_whole hne hds]
  · have hall : ∀ c ∈ fs ++ es, c.isDigit = true := by
      rw [hdigits]
      exact fun c => isDigit_of_mem_zeros_append hds
    rw [htext, readForm_point hfs (fun c hc => hall c (List.mem_append_left _ hc))
      (fun c hc => hall c (List.mem_append_right _ hc)), hdigits, digitsValue_append,
      digitsValue_zeros]

/-- The text of digits begins with a digit. -/
theorem head_digitsText {ds : List Char} (hne : ds ≠ []) (hds : ∀ c ∈ ds, c.isDigit = true)
    (e : Int) : ∃ c cs, digitsText ds e = c :: cs ∧ c.isDigit = true := by
  rcases digitsText_eq hne e with htext | ⟨zeros, fs, es, k, hfs, hdigits, -, htext⟩
  · obtain ⟨d, ds, rfl⟩ := List.exists_cons_of_ne_nil hne
    exact ⟨d, _, htext, hds d (by simp)⟩
  · obtain ⟨f, fs, rfl⟩ := List.exists_cons_of_ne_nil hfs
    refine ⟨f, _, htext, ?_⟩
    have hf : f ∈ List.replicate zeros '0' ++ ds := by simp [← hdigits]
    exact isDigit_of_mem_zeros_append hds hf

/-! ## Sign and kind -/

/-- A sign and what follows it, which begins with no minus sign, are read off the text. -/
theorem signChars_append_inj {s t : Bool} {as bs : List Char} (ha : as.head? ≠ some '-')
    (hb : bs.head? ≠ some '-') (h : signChars s ++ as = signChars t ++ bs) : s = t ∧ as = bs := by
  cases s with
  | false =>
      cases t with
      | false => exact ⟨rfl, h⟩
      | true =>
          obtain rfl : as = '-' :: bs := h
          exact absurd rfl ha
  | true =>
      cases t with
      | false =>
          obtain rfl : '-' :: as = bs := h
          exact absurd rfl hb
      | true => exact ⟨rfl, List.tail_eq_of_cons_eq h⟩

/-- The text of a number without its sign. -/
def unsignedChars : Decimal → List Char
  | .finite _ c e => digitsText (numeral c) e
  | .infinity _ => ['I', 'n', 'f', 'i', 'n', 'i', 't', 'y']
  | .nan _ signaling payload =>
    (if signaling then ['s'] else []) ++ ['N', 'a', 'N'] ++
      (if payload = 0 then [] else numeral payload)

/-- Whether the number has a minus sign. -/
def isNegative : Decimal → Bool
  | .finite s _ _ => s
  | .infinity s => s
  | .nan s _ _ => s

theorem chars_eq (d : Decimal) : d.chars = signChars d.isNegative ++ d.unsignedChars := by
  cases d <;> simp [chars, unsignedChars, isNegative]

/-- The text of a finite number begins with a digit, that of no other number does; the sign is no
part of it. -/
theorem head_unsignedChars (d : Decimal) :
    ∃ c cs, d.unsignedChars = c :: cs ∧ c.isDigit = d.isFinite ∧ c ≠ '-' := by
  cases d with
  | finite s c e =>
      obtain ⟨d, ds, htext, hd⟩ :=
        head_digitsText (numeral_ne_nil c) (fun _ => isDigit_of_mem_numeral) e
      refine ⟨d, ds, htext, hd, ?_⟩
      rintro rfl
      exact absurd hd (by decide)
  | infinity s => exact ⟨'I', _, rfl, rfl, by decide⟩
  | nan s signaling payload =>
      cases signaling with
      | false => exact ⟨'N', _, rfl, rfl, by decide⟩
      | true => exact ⟨'s', _, rfl, rfl, by decide⟩

theorem payloadText_injective {m n : Nat}
    (h : (if m = 0 then [] else numeral m) = if n = 0 then [] else numeral n) : m = n := by
  have hm := numeral_ne_nil m
  have hn := numeral_ne_nil n
  split at h <;> split at h
  · omega
  · exact absurd h.symm hn
  · exact absurd h hm
  · exact numeral_injective h

theorem unsignedChars_injective {a b : Decimal} (hsign : a.isNegative = b.isNegative)
    (h : a.unsignedChars = b.unsignedChars) : a = b := by
  have hfinite : a.isFinite = b.isFinite := by
    obtain ⟨c, cs, hc, hdigit, -⟩ := head_unsignedChars a
    obtain ⟨d, ds, hd, hdigit', -⟩ := head_unsignedChars b
    rw [hc, hd] at h
    rw [← hdigit, ← hdigit', (List.cons.inj h).1]
  cases a with
  | finite s c e =>
      cases b with
      | finite t c' e' =>
          have hform := congrArg readForm h
          simp only [unsignedChars, readForm_digitsText (numeral_ne_nil _)
            (fun _ => isDigit_of_mem_numeral), digitsValue_numeral, Nat.zero_mul, Nat.zero_add,
            Option.some.injEq, Prod.mk.injEq] at hform
          obtain ⟨rfl, rfl⟩ := hform
          exact congrArg (finite · c e) hsign
      | infinity t => cases hfinite
      | nan t signaling payload => cases hfinite
  | infinity s =>
      cases b with
      | finite t c e => cases hfinite
      | infinity t => exact congrArg infinity hsign
      | nan t signaling payload => cases signaling <;> cases h
  | nan s signaling payload =>
      cases b with
      | finite t c e => cases hfinite
      | infinity t => cases signaling <;> cases h
      | nan t signaling' payload' =>
          obtain rfl : s = t := hsign
          have hkind : signaling = signaling' := by
            cases signaling <;> cases signaling' <;> simp [unsignedChars] at h ⊢
          subst hkind
          have hpayload := payloadText_injective (List.append_cancel_left h)
          rw [hpayload]

/-- Two numbers with one text are one number in one form. -/
theorem chars_injective {a b : Decimal} (h : a.chars = b.chars) : a = b := by
  obtain ⟨c, cs, hc, -, hsign⟩ := head_unsignedChars a
  obtain ⟨d, ds, hd, -, hsign'⟩ := head_unsignedChars b
  rw [chars_eq, chars_eq] at h
  obtain ⟨hnegative, hbody⟩ := signChars_append_inj (by simpa [hc] using hsign)
    (by simpa [hd] using hsign') h
  exact unsignedChars_injective hnegative hbody

theorem text_injective {a b : Decimal} (h : a.text = b.text) : a = b :=
  chars_injective (String.ofList_injective h)

end RecordMapper.Number.Decimal
