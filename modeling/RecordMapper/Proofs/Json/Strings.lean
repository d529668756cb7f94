import Mathlib.Tactic.SplitIfs
import RecordMapper.Json.Reader
import RecordMapper.Json.Writer
import RecordMapper.Proofs.Value.UuidReading

/-! # JSON strings are read back

What is written between the quotes of a JSON string is read as the characters it was written for:
short escapes, four hexadecimal digits after `\u`, and two such units for a character beyond
U+FFFF. -/

namespace RecordMapper

namespace Text

theorem hexDigit?_hexChar {d : Nat} (h : d < 16) : hexDigit? (hexChar d) = some d := by
  decide +revert

/-! ## Characters in units -/

theorem isHighUnit_toNat (c : Char) : isHighUnit c.toNat = false := by
  have hvalid : c.toNat < 0xd800 ∨ 0xdfff < c.toNat := c.valid.imp id And.left
  simp only [isHighUnit, Bool.and_eq_false_iff, decide_eq_false_iff_not]
  omega

theorem unitChar_toNat (c : Char) : unitChar c.toNat = c := by
  have hvalid : c.toNat < 0xd800 ∨ 0xdfff < c.toNat := c.valid.imp id And.left
  rw [unitChar, if_neg (by omega), Char.ofNat_toNat]

theorem toNat_lt (c : Char) : c.toNat < 0x110000 := by
  rcases c.valid with h | h
  · exact Nat.lt_trans h (by decide)
  · exact h.2

theorem isHighUnit_add {k : Nat} (h : k < 0x100000) : isHighUnit (0xd800 + k / 0x400) = true := by
  simp only [isHighUnit, Bool.and_eq_true, decide_eq_true_eq]
  omega

theorem isLowUnit_add (k : Nat) : isLowUnit (0xdc00 + k % 0x400) = true := by
  simp only [isLowUnit, Bool.and_eq_true, decide_eq_true_eq]
  omega

theorem pairChar_add (k : Nat) :
    pairChar (0xd800 + k / 0x400) (0xdc00 + k % 0x400) = Char.ofNat (0x10000 + k) := by
  have hsum : 0x10000 + (0xd800 + k / 0x400 - 0xd800) * 0x400 + (0xdc00 + k % 0x400 - 0xdc00) =
      0x10000 + k := by omega
  rw [pairChar, hsum]

end Text

namespace Json

open Text

/-! ## Escapes -/

theorem hexUnit?_hexNumeral {n : Nat} (h : n < 0x10000) (rest : List Char) :
    hexUnit? (hexNumeral 4 n ++ rest) = some (n, rest) := by
  have hdigit : ∀ m, hexDigit? (hexChar (m % 16)) = some (m % 16) :=
    fun m => hexDigit?_hexChar (Nat.mod_lt m (by decide))
  have hvalue : ((n / 16 / 16 / 16 % 16 * 16 + n / 16 / 16 % 16) * 16 + n / 16 % 16) * 16 +
      n % 16 = n := by omega
  simp [hexNumeral, hexUnit?, hdigit, hvalue]

theorem readUnits?_single {n : Nat} (hn : n < 0x10000) (hhigh : isHighUnit n = false)
    (rest : List Char) : readUnits? (hexNumeral 4 n ++ rest) = some (unitChar n, rest) := by
  simp [readUnits?, hexUnit?_hexNumeral hn, hhigh]

theorem readUnits?_pair {n m : Nat} (hn : n < 0x10000) (hm : m < 0x10000)
    (hhigh : isHighUnit n = true) (hlow : isLowUnit m = true) (rest : List Char) :
    readUnits? (hexNumeral 4 n ++ (unitEscape m ++ rest)) = some (pairChar n m, rest) := by
  simp [readUnits?, unitEscape, hexUnit?_hexNumeral hn, hexUnit?_hexNumeral hm, hhigh, hlow]

/-! ## Strings -/

section

variable {fuel : Nat} {acc cs rest : List Char} {c e : Char}

theorem readString_unit (h : readUnits? cs = some (c, rest)) :
    readString (fuel + 1) acc ('\\' :: 'u' :: cs) = readString fuel (c :: acc) rest := by
  rw [readString, h]

theorem readString_short (h : shortEscape? e = some c) :
    readString (fuel + 1) acc ('\\' :: e :: rest) = readString fuel (c :: acc) rest := by
  have hu : e ≠ 'u' := by
    rintro rfl
    cases h
  rw [readString]
  · rw [h]
  · simpa using hu

theorem readString_plain (hquote : c ≠ '"') (hslash : c ≠ '\\') (hprinted : 0x20 ≤ c.toNat) :
    readString (fuel + 1) acc (c :: rest) = readString fuel (c :: acc) rest := by
  rw [readString, if_neg]
  · simp [hslash, hprinted]
  all_goals simp [hquote, hslash]

/-- A written character is read as that character. -/
theorem readString_charText :
    readString (fuel + 1) acc (charText c ++ rest) = readString fuel (c :: acc) rest := by
  unfold charText
  split_ifs with hquote hslash hn hr ht hb hf hprinted hsmall
  · subst hquote
    exact readString_short rfl
  · subst hslash
    exact readString_short rfl
  · subst hn
    exact readString_short rfl
  · subst hr
    exact readString_short rfl
  · subst ht
    exact readString_short rfl
  · subst hb
    exact readString_short rfl
  · subst hf
    exact readString_short rfl
  · exact readString_plain hquote hslash hprinted.1
  · have hread := readUnits?_single hsmall (isHighUnit_toNat c) rest
    rw [unitChar_toNat] at hread
    exact readString_unit hread
  · have hlt := toNat_lt c
    obtain ⟨k, hk⟩ := Nat.exists_eq_add_of_le (Nat.le_of_not_lt hsmall)
    have hread := readUnits?_pair (n := 0xd800 + k / 0x400) (m := 0xdc00 + k % 0x400) (by omega)
      (by omega) (isHighUnit_add (by omega)) (isLowUnit_add k) rest
    have hpair : pairChar (0xd800 + k / 0x400) (0xdc00 + k % 0x400) = c := by
      rw [pairChar_add, ← hk, Char.ofNat_toNat]
    have hsub : c.toNat - 0x10000 = k := by omega
    rw [hpair] at hread
    rw [hsub, List.append_assoc]
    exact readString_unit hread

theorem charText_ne_nil (c : Char) : charText c ≠ [] := by
  unfold charText
  split_ifs <;> simp [unitEscape]

theorem length_le_stringBody (cs : List Char) : cs.length ≤ (stringBody cs).length := by
  induction cs with
  | nil => exact Nat.zero_le _
  | cons c cs ih =>
      have hpos : 0 < (charText c).length := List.length_pos_iff.mpr (charText_ne_nil c)
      rw [stringBody, List.length_append, List.length_cons]
      omega

/-- The body of a string is read up to the closing quote. -/
theorem readString_stringBody (hfuel : cs.length < fuel) :
    readString fuel acc (stringBody cs ++ '"' :: rest) =
      .ok (String.ofList (acc.reverse ++ cs), rest) := by
  induction cs generalizing fuel acc with
  | nil =>
      obtain ⟨fuel, rfl⟩ := Nat.exists_eq_add_one_of_ne_zero (Nat.ne_of_gt hfuel)
      rw [stringBody, List.nil_append, readString, List.append_nil]
  | cons c cs ih =>
      obtain ⟨fuel, rfl⟩ : ∃ k, fuel = k + 1 := ⟨fuel - 1, by omega⟩
      rw [stringBody, List.append_assoc, readString_charText, ih (Nat.lt_of_succ_lt_succ hfuel),
        List.reverse_cons, List.append_assoc, List.singleton_append]

/-- A written string is read as that string. -/
theorem readString_stringText (s : String) (rest : List Char) :
    readString (stringBody s.toList ++ '"' :: rest).length [] (stringBody s.toList ++ '"' :: rest) =
      .ok (s, rest) := by
  have hfuel : s.toList.length < (stringBody s.toList ++ '"' :: rest).length := by
    have hle := length_le_stringBody s.toList
    rw [List.length_append, List.length_cons]
    omega
  rw [readString_stringBody hfuel, List.reverse_nil, List.nil_append, String.ofList_toList]

end

end Json

end RecordMapper
