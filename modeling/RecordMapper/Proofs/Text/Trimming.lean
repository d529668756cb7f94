import RecordMapper.Number.Reader
import RecordMapper.Proofs.Text.Numerals

/-! # Texts that are read whole

Readers drop the blanks around a text and the underscores in a number, and take a final `Z` for an
offset. The texts that numbers, dates and identifiers are written as have none of these. -/

namespace RecordMapper.Text

/-- Whether readers keep the character wherever it stands. -/
def isKept (c : Char) : Bool := !isBlank c && c != '_' && c != 'Z'

theorem isBlank_of_isKept {c : Char} (h : isKept c = true) : isBlank c = false := by
  simp only [isKept, Bool.and_eq_true, Bool.not_eq_true'] at h
  exact h.1.1

theorem exists_digitZero {c : Char} (h : isDigit c = true) :
    ∃ z ∈ digitZeros, z ≤ c.toNat ∧ c.toNat < z + 10 := by
  rw [isDigit, digit?, Option.isSome_map] at h
  obtain ⟨z, hz⟩ := Option.isSome_iff_exists.mp h
  have hrange := List.find?_some hz
  rw [Bool.and_eq_true, decide_eq_true_eq, decide_eq_true_eq] at hrange
  exact ⟨z, List.mem_of_find?_eq_some hz, hrange⟩

/-- The digits of every script are kept. -/
theorem isKept_of_digit {c : Char} (h : isDigit c = true) : isKept c = true := by
  obtain ⟨z, hz, hlow, hhigh⟩ := exists_digitZero h
  have hblank : isBlank c = false := by
    have hclear : ∀ z ∈ digitZeros, ∀ r ∈ blankRanges, r.2 < z ∨ z + 9 < r.1 := by
      decide
    exact Ranges.not_contains_of_clear hlow (Nat.le_of_lt_succ hhigh) (hclear z hz)
  have hne : ∀ d : Char, (∀ z ∈ digitZeros, d.toNat < z ∨ z + 10 ≤ d.toNat) → c ≠ d := by
    rintro d hclear rfl
    have := hclear z hz
    omega
  simp [isKept, hblank, hne '_' (by decide), hne 'Z' (by decide)]

theorem isKept_of_isDigit {c : Char} (h : c.isDigit = true) : isKept c = true := by
  apply isKept_of_digit
  rw [isDigit, digit?_of_isDigit h]
  rfl

@[simp] theorem all_isKept_numeral (n : Nat) : (numeral n).all isKept = true :=
  List.all_eq_true.mpr fun _ h => isKept_of_isDigit (isDigit_of_mem_numeral h)

@[simp] theorem all_isKept_padded (width n : Nat) : (padded width n).all isKept = true :=
  List.all_eq_true.mpr fun _ h => isKept_of_isDigit (isDigit_of_mem_padded h)

/-! ## Both ends of a text -/

theorem dropWhile_eq_self {p : Char → Bool} {cs : List Char} (h : ∀ c ∈ cs, p c = false) :
    cs.dropWhile p = cs := by
  cases cs with
  | nil => rfl
  | cons c cs => rw [List.dropWhile_cons, h c (by simp), if_neg (by decide)]

/-- Nothing is dropped at the ends of a text that has none of the characters to be dropped. -/
theorem dropEnds_eq_self {p : Char → Bool} {cs : List Char} (h : ∀ c ∈ cs, p c = false) :
    ((cs.dropWhile p).reverse.dropWhile p).reverse = cs := by
  rw [dropWhile_eq_self h, dropWhile_eq_self fun c hc => h c (List.mem_reverse.mp hc),
    List.reverse_reverse]

theorem trim_eq_self {cs : List Char} (h : cs.all isKept = true) : trim cs = cs :=
  dropEnds_eq_self fun c hc => isBlank_of_isKept (List.all_eq_true.mp h c hc)

theorem trimNumeral_eq_self {cs : List Char} (h : cs.all isKept = true) :
    Number.trimNumeral cs = cs := by
  apply dropEnds_eq_self
  intro c hc
  rw [Number.isNumeralBlank, isBlank_of_isKept (List.all_eq_true.mp h c hc), Bool.false_and]

theorem ne_of_isKept {c d : Char} (hc : isKept c = true) (hd : isKept d = false) : c ≠ d := by
  rintro rfl
  simp [hc] at hd

theorem filter_underscore_eq_self {cs : List Char} (h : cs.all isKept = true) :
    cs.filter (· != '_') = cs :=
  List.filter_eq_self.mpr fun c hc =>
    bne_iff_ne.mpr (ne_of_isKept (List.all_eq_true.mp h c hc) (by decide))

end RecordMapper.Text
