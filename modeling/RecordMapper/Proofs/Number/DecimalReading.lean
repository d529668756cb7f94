import RecordMapper.Proofs.Number.DecimalText
import RecordMapper.Proofs.Text.Trimming

/-! # Decimal numbers are read back

Reading gives numbers whose exponents are within the limits of the arithmetic. The text of such a
number is read as that number, with its sign, its digits and its exponent. -/

namespace RecordMapper.Number.Decimal

open Text

/-! ## Limits -/

/-- The exponent of the first digit, or for zero of the last one. -/
def adjustedExponent (c : Nat) (e : Int) : Int := if c = 0 then e else e + digitCount c - 1

/-- The exponents of a finite number are within the limits. -/
def InLimits : Decimal → Prop
  | .finite _ c e => leastExponent ≤ e ∧ adjustedExponent c e ≤ largestAdjusted
  | _ => True

theorem checked_eq_some_iff {s : Bool} {c : Nat} {e : Int} {d : Decimal} :
    checked s c e = some d ↔ d = .finite s c e ∧ (finite s c e).InLimits := by
  have hchecked : checked s c e =
      if e < leastExponent ∨ largestAdjusted < adjustedExponent c e then none
      else some (.finite s c e) := rfl
  have hlimits : (finite s c e).InLimits ↔
      ¬(e < leastExponent ∨ largestAdjusted < adjustedExponent c e) := by
    rw [InLimits, not_or, Int.not_lt, Int.not_lt]
  rw [hchecked, hlimits]
  split
  · rename_i hbeyond
    simp [hbeyond]
  · rename_i hwithin
    simp [hwithin, eq_comm]

theorem inLimits_of_readUnsigned {s : Bool} {cs : List Char} {d : Decimal}
    (h : readUnsigned s cs = some d) : d.InLimits := by
  have hpayload : ∀ signaling ds, readPayload s signaling ds = some d → d.InLimits := by
    intro signaling ds hread
    unfold readPayload at hread
    split at hread
    · cases hread
      trivial
    · cases hread
  unfold readUnsigned at h
  split at h
  · cases h
    trivial
  · cases h
    trivial
  · exact hpayload _ _ h
  · exact hpayload _ _ h
  · rw [readNumber] at h
    obtain ⟨⟨c, e⟩, -, hchecked⟩ := Option.bind_eq_some_iff.mp h
    obtain ⟨rfl, hlimits⟩ := checked_eq_some_iff.mp hchecked
    exact hlimits

theorem inLimits_of_ofChars? {cs : List Char} {d : Decimal} (h : ofChars? cs = some d) :
    d.InLimits := by
  unfold ofChars? at h
  split at h
  · exact inLimits_of_readUnsigned h
  · exact inLimits_of_readUnsigned h
  · exact inLimits_of_readUnsigned h

/-- Integers that can be written are far within the limits. -/
theorem inLimits_ofInt {i : Int} (h : digitCount i.natAbs ≤ longestNumeral) :
    (ofInt i).InLimits := by
  rw [longestNumeral] at h
  simp only [ofInt, InLimits, adjustedExponent, leastExponent, largestAdjusted]
  split <;> omega

/-! ## Reading the text of a number -/

theorem all_isKept_exponentText (k : Int) : (exponentText k).all isKept = true := by
  have hletter : isKept 'E' = true := by decide
  have hplus : isKept '+' = true := by decide
  have hminus : isKept '-' = true := by decide
  unfold exponentText
  split
  · rfl
  · split <;> simp [hletter, hplus, hminus]

theorem all_isKept_digitsText {ds : List Char} (hne : ds ≠ [])
    (hds : ∀ c ∈ ds, c.isDigit = true) (e : Int) : (digitsText ds e).all isKept = true := by
  have hpoint : isKept '.' = true := by decide
  rcases digitsText_eq hne e with htext | ⟨zeros, fs, es, k, -, hdigits, -, htext⟩
  · have hkept : ds.all isKept = true :=
      List.all_eq_true.mpr fun c hc => isKept_of_isDigit (hds c hc)
    rw [htext, List.all_append, hkept, all_isKept_exponentText]
    rfl
  · have hkept : (fs ++ es).all isKept = true := by
      rw [hdigits]
      exact List.all_eq_true.mpr fun c hc =>
        isKept_of_isDigit (isDigit_of_mem_zeros_append hds hc)
    rw [List.all_append, Bool.and_eq_true] at hkept
    rw [htext, List.all_append, List.all_cons, List.all_append, hkept.1, hkept.2, hpoint,
      all_isKept_exponentText]
    rfl

theorem toLower_of_isDigit {c : Char} (h : c.isDigit = true) : c.toLower = c := by
  have hrange := toNat_of_isDigit h
  apply dif_neg
  rintro ⟨hcapital, -⟩
  have hcapital : 'A'.toNat ≤ c.toNat := UInt32.le_iff_toNat_le.mp hcapital
  have hA : 'A'.toNat = 65 := rfl
  omega

/-- A text that begins with a digit is neither an infinity nor a NaN. -/
theorem readUnsigned_of_isDigit {c : Char} (h : c.isDigit = true) (s : Bool) (cs : List Char) :
    readUnsigned s (c :: cs) = readNumber s (c :: cs) := by
  have hsmall : smallLetters (c :: cs) = c :: smallLetters cs := by
    rw [smallLetters, List.map_cons, toLower_of_isDigit h]
    rfl
  have hhead : ∀ l ds, l.isDigit = false → smallLetters (c :: cs) ≠ l :: ds := by
    rintro l ds hl heq
    rw [hsmall] at heq
    rw [(List.cons.inj heq).1, hl] at h
    cases h
  unfold readUnsigned
  split
  · exact absurd ‹_› (hhead _ _ (by decide))
  · exact absurd ‹_› (hhead _ _ (by decide))
  · exact absurd ‹_› (hhead _ _ (by decide))
  · exact absurd ‹_› (hhead _ _ (by decide))
  · rfl

theorem readUnsigned_digitsText (s : Bool) {c : Nat} {e : Int} (h : (finite s c e).InLimits) :
    readUnsigned s (digitsText (numeral c) e) = some (.finite s c e) := by
  obtain ⟨d, ds, htext, hd⟩ :=
    head_digitsText (numeral_ne_nil c) (fun _ => isDigit_of_mem_numeral) e
  have hform : readForm (digitsText (numeral c) e) = some (c, e) := by
    rw [readForm_digitsText (numeral_ne_nil c) (fun _ => isDigit_of_mem_numeral),
      digitsValue_numeral, Nat.zero_mul, Nat.zero_add]
  have hchecked : checked s c e = some (.finite s c e) := checked_eq_some_iff.mpr ⟨rfl, h⟩
  rw [htext] at hform ⊢
  rw [readUnsigned_of_isDigit hd, readNumber, hform]
  exact hchecked

theorem ofChars?_chars {d : Decimal} (hfinite : d.isFinite = true) (h : d.InLimits) :
    ofChars? d.chars = some d := by
  obtain ⟨s, c, e⟩ | s | ⟨s, signaling, payload⟩ := d
  · have hdigits := readUnsigned_digitsText s h
    have hkept : (chars (.finite s c e)).all isKept = true := by
      have hminus : isKept '-' = true := by decide
      rw [chars, List.all_append,
        all_isKept_digitsText (numeral_ne_nil c) (fun _ => isDigit_of_mem_numeral)]
      cases s <;> simp [signChars, hminus]
    rw [ofChars?, trim_eq_self hkept, filter_underscore_eq_self hkept, chars]
    cases s with
    | true => exact hdigits
    | false =>
        -- without a sign the text begins with a digit
        obtain ⟨d, ds, htext, hd⟩ :=
          head_digitsText (numeral_ne_nil c) (fun _ => isDigit_of_mem_numeral) e
        rw [htext] at hdigits
        rw [signChars, if_neg Bool.false_ne_true, List.nil_append, htext]
        split
        · rename_i heq
          rw [(List.cons.inj heq).1] at hd
          cases hd
        · rename_i heq
          rw [(List.cons.inj heq).1] at hd
          cases hd
        · exact hdigits
  · cases hfinite
  · cases hfinite

end RecordMapper.Number.Decimal
