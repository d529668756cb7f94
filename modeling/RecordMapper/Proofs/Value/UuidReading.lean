import RecordMapper.Proofs.Text.Trimming
import RecordMapper.Uuid

/-! # Identifiers are read back

The five groups of hexadecimal digits that an identifier is written as are read as that
identifier. -/

namespace RecordMapper

open Text Number

/-! ## Hexadecimal numerals -/

namespace Text

theorem exists_hexChar_of_mem {width n : Nat} {c : Char} (h : c ∈ hexNumeral width n) :
    ∃ d < 16, c = hexChar d := by
  induction width generalizing n with
  | zero => cases h
  | succ width ih =>
      rcases List.mem_append.mp h with h | h
      · exact ih h
      · exact ⟨n % 16, Nat.mod_lt n (by decide), List.mem_singleton.mp h⟩

theorem anyHexDigit?_hexChar {d : Nat} (h : d < 16) : anyHexDigit? (hexChar d) = some d := by
  decide +revert

theorem isKept_hexChar {d : Nat} (h : d < 16) : isKept (hexChar d) = true := by
  decide +revert

theorem hexChar_ne {d : Nat} {c : Char} (hd : d < 16) (hc : anyHexDigit? c = none) :
    hexChar d ≠ c := by
  rintro rfl
  rw [anyHexDigit?_hexChar hd] at hc
  cases hc

/-- A hexadecimal numeral is read digit by digit before what follows it. -/
theorem readDigits_hexNumeral (width n : Nat) (prior : Bool) (acc : Nat) (rest : List Char) :
    readDigits anyHexDigit? 16 prior acc (hexNumeral width n ++ rest) =
      readDigits anyHexDigit? 16 (prior || decide (0 < width))
        (acc * 16 ^ width + n % 16 ^ width) rest := by
  induction width generalizing n rest with
  | zero => simp [hexNumeral, Nat.mod_one]
  | succ width ih =>
      have hdigit : n % 16 < 16 := Nat.mod_lt n (by decide)
      have hunderscore : hexChar (n % 16) ≠ '_' := hexChar_ne hdigit (by decide)
      have hsplit : n % 16 ^ (width + 1) = n / 16 % 16 ^ width * 16 + n % 16 := by
        rw [Nat.pow_succ', Nat.mod_mul, Nat.add_comm, Nat.mul_comm]
      have hvalue : (acc * 16 ^ width + n / 16 % 16 ^ width) * 16 + n % 16 =
          acc * 16 ^ (width + 1) + n % 16 ^ (width + 1) := by
        rw [hsplit, Nat.add_mul, Nat.pow_succ, ← Nat.mul_assoc, Nat.add_assoc]
      rw [hexNumeral, List.append_assoc, ih, List.singleton_append, readDigits]
      · simp only [anyHexDigit?_hexChar hdigit, hvalue]
        simp
      · exact hunderscore

theorem readDigits_hexNumeral_all {width n : Nat} (hwidth : 0 < width) (hn : n < 16 ^ width) :
    readDigits anyHexDigit? 16 false 0 (hexNumeral width n) = some n := by
  have h := readDigits_hexNumeral width n false 0 []
  simpa [readDigits, hwidth, Nat.mod_eq_of_lt hn] using h

theorem exists_hexNumeral {width : Nat} (hwidth : 2 ≤ width) (n : Nat) :
    ∃ d < 16, ∃ e < 16, ∃ cs, hexNumeral width n = hexChar d :: hexChar e :: cs := by
  have hlength := length_hexNumeral width n
  have hchar : ∀ c ∈ hexNumeral width n, ∃ d < 16, c = hexChar d :=
    fun _ => exists_hexChar_of_mem
  generalize hexNumeral width n = ds at hlength hchar
  match ds with
  | [] => simp at hlength; omega
  | [c] => simp at hlength; omega
  | a :: b :: cs =>
      obtain ⟨d, hd, rfl⟩ := hchar a (by simp)
      obtain ⟨e, he, rfl⟩ := hchar b (by simp)
      exact ⟨d, hd, e, he, cs, rfl⟩

/-- A hexadecimal numeral begins neither with a sign nor with `0x`. -/
theorem readHexadecimal?_hexNumeral {width n : Nat} (hwidth : 2 ≤ width) (hn : n < 16 ^ width) :
    readHexadecimal? (hexNumeral width n) = some (n : Int) := by
  have hkept : (hexNumeral width n).all isKept = true := by
    apply List.all_eq_true.mpr
    intro c hc
    obtain ⟨d, hd, rfl⟩ := exists_hexChar_of_mem hc
    exact isKept_hexChar hd
  have hdigits := readDigits_hexNumeral_all (by omega) hn
  obtain ⟨d, hd, e, he, cs, htext⟩ := exists_hexNumeral hwidth n
  rw [htext] at hdigits hkept ⊢
  have hminus : hexChar d ≠ '-' := hexChar_ne hd (by decide)
  have hplus : hexChar d ≠ '+' := hexChar_ne hd (by decide)
  have hsmall : hexChar e ≠ 'x' := hexChar_ne he (by decide)
  have hcapital : hexChar e ≠ 'X' := hexChar_ne he (by decide)
  simp [readHexadecimal?, trimNumeral_eq_self hkept, splitSign, hminus, hplus, hsmall, hcapital,
    hdigits, withSign]

end Text

/-! ## Identifiers -/

namespace Uuid

/-- A word is dropped nowhere in a text that lacks one of its characters. -/
theorem dropWord_eq_self {word cs : List Char} {c : Char} (hc : c ∈ word) (h : c ∉ cs) :
    dropWord word 0 cs = cs := by
  induction cs with
  | nil => rfl
  | cons x cs ih =>
      have hword : word.isPrefixOf (x :: cs) = false := by
        rw [Bool.eq_false_iff, ne_eq, List.isPrefixOf_iff_prefix]
        intro hfront
        exact h (List.IsPrefix.subset hfront hc)
      rw [dropWord, hword, if_neg Bool.false_ne_true, ih fun hmem => h (List.mem_cons_of_mem _ hmem)]

theorem take_drop_append (ds : List Char) (k n : Nat) :
    (ds.drop k).take n ++ ds.drop (k + n) = ds.drop k := by
  rw [← List.drop_drop, List.take_append_drop]

/-- Without the dashes the groups are the digits in a row. -/
theorem filter_chars (u : Uuid) : u.chars.filter (· != '-') = hexNumeral 32 u.bits.toNat := by
  have hdigits : ∀ x ∈ hexNumeral 32 u.bits.toNat, (x != '-') = true := by
    intro x hx
    obtain ⟨d, hd, rfl⟩ := exists_hexChar_of_mem hx
    exact bne_iff_ne.mpr (hexChar_ne hd (by decide))
  unfold chars
  generalize hexNumeral 32 u.bits.toNat = ds at hdigits
  have htake : ∀ k n, ((ds.drop k).take n).filter (· != '-') = (ds.drop k).take n :=
    fun k n => List.filter_eq_self.mpr fun x hx =>
      hdigits x (List.mem_of_mem_drop (List.mem_of_mem_take hx))
  have hfirst : (ds.take 8).filter (· != '-') = ds.take 8 := htake 0 8
  have hlast : (ds.drop 20).filter (· != '-') = ds.drop 20 :=
    List.filter_eq_self.mpr fun x hx => hdigits x (List.mem_of_mem_drop hx)
  have hdash : ∀ cs : List Char, ('-' :: cs).filter (· != '-') = cs.filter (· != '-') :=
    fun _ => rfl
  simp only [List.filter_append, hdash, htake, hfirst, hlast, List.append_assoc]
  rw [take_drop_append ds 16 4, take_drop_append ds 12 4, take_drop_append ds 8 4,
    List.take_append_drop]

/-- Of other characters than dashes and digits the text has none. -/
theorem mem_chars_cases {u : Uuid} {c : Char} (h : c ∈ u.chars) :
    c = '-' ∨ ∃ d < 16, c = hexChar d := by
  by_cases hdash : c = '-'
  · exact .inl hdash
  · have hdigit : c ∈ u.chars.filter (· != '-') := List.mem_filter.mpr ⟨h, bne_iff_ne.mpr hdash⟩
    rw [filter_chars] at hdigit
    exact .inr (exists_hexChar_of_mem hdigit)

theorem all_isKept (u : Uuid) : u.chars.all isKept = true := by
  apply List.all_eq_true.mpr
  intro c hc
  rcases mem_chars_cases hc with rfl | ⟨d, hd, rfl⟩
  · decide
  · exact isKept_hexChar hd

theorem colon_notMem_chars (u : Uuid) : ':' ∉ u.chars := by
  intro h
  rcases mem_chars_cases h with hdash | ⟨d, hd, hcolon⟩
  · exact absurd hdash (by decide)
  · exact hexChar_ne hd (by decide) hcolon.symm

theorem dropBraces_chars (u : Uuid) : dropBraces u.chars = u.chars := by
  apply dropEnds_eq_self
  intro c hc
  rcases mem_chars_cases hc with rfl | ⟨d, hd, rfl⟩
  · decide
  · have hopen : hexChar d ≠ '\x7b' := hexChar_ne hd (by decide)
    have hclose : hexChar d ≠ '\x7d' := hexChar_ne hd (by decide)
    simp [isBrace, hopen, hclose]

theorem ofChars?_chars (u : Uuid) : ofChars? u.chars = some u := by
  have hurn : dropWord ['u', 'r', 'n', ':'] 0 u.chars = u.chars :=
    dropWord_eq_self (by decide) u.colon_notMem_chars
  have huuid : dropWord ['u', 'u', 'i', 'd', ':'] 0 u.chars = u.chars :=
    dropWord_eq_self (by decide) u.colon_notMem_chars
  have hread : readHexadecimal? (hexNumeral 32 u.bits.toNat) = some (u.bits.toNat : Int) :=
    readHexadecimal?_hexNumeral (by decide) u.bits.isLt
  simp only [ofChars?, hurn, huuid, u.dropBraces_chars, filter_chars, length_hexNumeral, if_true,
    hread, Option.map_some, BitVec.ofInt_natCast, BitVec.ofNat_toNat, BitVec.setWidth_eq]

end Uuid

end RecordMapper
