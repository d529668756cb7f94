import Mathlib.Algebra.Group.Nat.Defs
import RecordMapper.Text.Digit
import RecordMapper.Text.Numeral

/-! # Digits of numerals

A numeral is made up of digits alone, and the number can be read off them. -/

namespace RecordMapper.Text

theorem isDigit_digitChar {d : Nat} (h : d < 10) : (digitChar d).isDigit = true := by
  decide +revert

theorem isDigit_of_mem_numeral {n : Nat} {c : Char} (h : c ∈ numeral n) : c.isDigit = true := by
  fun_induction numeral n with
  | case1 n hn =>
      obtain rfl := List.mem_singleton.mp h
      exact isDigit_digitChar hn
  | case2 n hn ih =>
      rcases List.mem_append.mp h with h | h
      · exact ih h
      · obtain rfl := List.mem_singleton.mp h
        exact isDigit_digitChar (Nat.mod_lt n (by omega))

/-- A numeral begins with a digit, and only that of zero with a zero. -/
theorem exists_numeral (n : Nat) :
    ∃ c cs, numeral n = c :: cs ∧ c.isDigit = true ∧ (n ≠ 0 → c ≠ '0') := by
  fun_induction numeral n with
  | case1 n hn =>
      have hdigit : ∀ d < 10, d ≠ 0 → digitChar d ≠ '0' := by decide
      exact ⟨digitChar n, [], rfl, isDigit_digitChar hn, hdigit n hn⟩
  | case2 n hn ih =>
      obtain ⟨c, cs, hnumeral, hdigit, hc⟩ := ih
      exact ⟨c, cs ++ [digitChar (n % 10)], by rw [hnumeral]; rfl, hdigit, fun _ => hc (by omega)⟩

theorem intNumeral_natCast (n : Nat) : intNumeral n = numeral n := by
  simp [intNumeral]

/-! ## Reading a numeral -/

theorem toNat_of_isDigit {c : Char} (h : c.isDigit = true) :
    0x30 ≤ c.toNat ∧ c.toNat < 0x30 + 10 := by
  simp only [Char.isDigit, Bool.and_eq_true, decide_eq_true_eq, ge_iff_le, UInt32.le_iff_toNat_le]
    at h
  exact ⟨h.1, Nat.lt_succ_of_le h.2⟩

theorem ne_of_isDigit {c d : Char} (hc : c.isDigit = true) (hd : d.isDigit = false) : c ≠ d := by
  rintro rfl
  simp [hc] at hd

theorem digit?_of_isDigit {c : Char} (h : c.isDigit = true) : digit? c = some (c.toNat - 48) := by
  have hrange := toNat_of_isDigit h
  have hfirst : digitZeros.find? (fun z => z ≤ c.toNat && c.toNat < z + 10) = some 0x30 := by
    rw [digitZeros, List.find?_cons_of_pos (by simpa using hrange)]
  rw [digit?, hfirst]
  rfl

theorem digit?_digitChar {d : Nat} (h : d < 10) : digit? (digitChar d) = some d := by
  decide +revert

theorem digitsValue_append (acc : Nat) (ds es : List Char) :
    digitsValue acc (ds ++ es) = digitsValue (digitsValue acc ds) es := by
  induction ds generalizing acc with
  | nil => rfl
  | cons d ds ih => exact ih _

/-- The digits of a numeral denote its number, moved behind what stands before it. -/
theorem digitsValue_numeral (acc n : Nat) :
    digitsValue acc (numeral n) = acc * 10 ^ digitCount n + n := by
  fun_induction numeral n with
  | case1 n hn => simp [digitsValue, digit?_digitChar hn, digitCount, numeral, hn]
  | case2 n hn ih =>
      have hcount : digitCount n = digitCount (n / 10) + 1 := by
        rw [digitCount, numeral, if_neg hn, List.length_append]
        rfl
      have hlast : digit? (digitChar (n % 10)) = some (n % 10) :=
        digit?_digitChar (Nat.mod_lt n (by omega))
      rw [digitsValue_append, ih, hcount]
      simp only [digitsValue, hlast, Option.getD_some]
      rw [Nat.add_mul, Nat.mul_assoc, ← Nat.pow_succ]
      have hdigits : n / 10 * 10 + n % 10 = n := Nat.div_add_mod' n 10
      rw [Nat.add_assoc, hdigits]

theorem digitsValue_zeros (count : Nat) : digitsValue 0 (List.replicate count '0') = 0 := by
  induction count with
  | zero => rfl
  | succ count ih => exact ih

theorem numeral_injective {m n : Nat} (h : numeral m = numeral n) : m = n := by
  simpa [digitsValue_numeral] using congrArg (digitsValue 0) h

theorem digitsValue_padded (width n : Nat) : digitsValue 0 (padded width n) = n := by
  rw [padded, padZeros, digitsValue_append, digitsValue_zeros, digitsValue_numeral]
  omega

theorem padded_injective {width m n : Nat} (h : padded width m = padded width n) : m = n := by
  simpa [digitsValue_padded] using congrArg (digitsValue 0) h

/-! ## Width -/

theorem digit?_lt {c : Char} {d : Nat} (h : digit? c = some d) : d < 10 := by
  rw [digit?, Option.map_eq_some_iff] at h
  obtain ⟨z, hz, rfl⟩ := h
  have hrange := List.find?_some hz
  rw [Bool.and_eq_true, decide_eq_true_eq, decide_eq_true_eq] at hrange
  omega

/-- Digits denote a number that has no more digits. -/
theorem digitsValue_lt (acc : Nat) (ds : List Char) :
    digitsValue acc ds < (acc + 1) * 10 ^ ds.length := by
  induction ds generalizing acc with
  | nil => simp [digitsValue]
  | cons c cs ih =>
      have hdigit : (digit? c).getD 0 < 10 := by
        cases hc : digit? c with
        | none => simp
        | some d => exact digit?_lt hc
      have hacc : acc * 10 + (digit? c).getD 0 + 1 ≤ (acc + 1) * 10 := by omega
      calc
        digitsValue acc (c :: cs) < (acc * 10 + (digit? c).getD 0 + 1) * 10 ^ cs.length := ih _
        _ ≤ (acc + 1) * 10 * 10 ^ cs.length := Nat.mul_le_mul_right _ hacc
        _ = (acc + 1) * 10 ^ (c :: cs).length := by
          rw [List.length_cons, Nat.pow_succ', Nat.mul_assoc]

theorem digitCount_le {width n : Nat} (hwidth : 0 < width) (h : n < 10 ^ width) :
    digitCount n ≤ width := by
  induction width generalizing n with
  | zero => omega
  | succ width ih =>
      by_cases hn : n < 10
      · simp [digitCount, numeral, hn]
      · have hpos : 0 < width := by
          rcases Nat.eq_zero_or_pos width with rfl | hpos
          · omega
          · exact hpos
        have hcount : digitCount (n / 10) ≤ width := ih hpos (by
          rw [Nat.pow_succ] at h
          omega)
        rw [digitCount, numeral, if_neg hn, List.length_append]
        exact Nat.succ_le_succ hcount

theorem length_padded {width n : Nat} (hwidth : 0 < width) (h : n < 10 ^ width) :
    (padded width n).length = width := by
  have hcount : (numeral n).length ≤ width := digitCount_le hwidth h
  rw [padded, padZeros, List.length_append, List.length_replicate]
  omega

/-- Numerals of one width in front of two texts are read off them. -/
theorem padded_append_inj {width m n : Nat} (hwidth : 0 < width) (hm : m < 10 ^ width)
    (hn : n < 10 ^ width) {as bs : List Char} (h : padded width m ++ as = padded width n ++ bs) :
    m = n ∧ as = bs := by
  obtain ⟨hnumeral, hrest⟩ :=
    List.append_inj h (by rw [length_padded hwidth hm, length_padded hwidth hn])
  exact ⟨padded_injective hnumeral, hrest⟩

/-! ## Padded numerals -/

theorem isDigit_of_mem_padded {width n : Nat} {c : Char} (h : c ∈ padded width n) :
    c.isDigit = true := by
  rcases List.mem_append.mp h with h | h
  · obtain rfl := List.eq_of_mem_replicate h
    rfl
  · exact isDigit_of_mem_numeral h

/-- A padded numeral begins with a digit. -/
theorem exists_padded (width n : Nat) :
    ∃ c cs, padded width n = c :: cs ∧ c.isDigit = true := by
  have hne : padded width n ≠ [] := by simp [padded, padZeros, numeral_ne_nil]
  obtain ⟨c, cs, hchars⟩ := List.exists_cons_of_ne_nil hne
  have hmem : c ∈ padded width n := by simp [hchars]
  exact ⟨c, cs, hchars, isDigit_of_mem_padded hmem⟩

end RecordMapper.Text
