import Mathlib.Tactic.SplitIfs
import RecordMapper.Cast
import RecordMapper.Proofs.Number.Overflow
import RecordMapper.Proofs.Outcome
import RecordMapper.Proofs.Text.Trimming

/-! # Values whose conversion fails with another error

A value that is none of a kind is a mismatch when it is cast or loaded. Some values fail with
another error instead: numbers too large for what is made of them, a signaling NaN, and texts and
bytes that are no JSON. These are all of them. -/

namespace RecordMapper

open Number Text

/-! ## Numerals -/

namespace Number

/-- Digits without underscores between them are read. -/
theorem readDigits_digits {cs : List Char} (h : ∀ c ∈ cs, Text.isDigit c = true) {prior : Bool}
    (hne : prior = true ∨ cs ≠ []) (acc : Nat) :
    readDigits digit? 10 prior acc cs = some (digitsValue acc cs) := by
  induction cs generalizing prior acc with
  | nil =>
      have hprior : prior = true := hne.resolve_right (absurd rfl)
      rw [hprior]
      rfl
  | cons c cs ih =>
      obtain ⟨hc, hcs⟩ := List.forall_mem_cons.mp h
      obtain ⟨d, hd⟩ := Option.isSome_iff_exists.mp hc
      rw [readDigits]
      · simp only [hd, digitsValue, Option.getD_some]
        exact ih hcs (.inl rfl) _
      · exact ne_of_isKept (isKept_of_digit hc) (by decide)

theorem mem_splitSign {c : Char} {cs : List Char} (h : c ∈ cs) :
    c = '-' ∨ c = '+' ∨ c ∈ (splitSign cs).2 := by
  unfold splitSign
  split
  · exact (List.mem_cons.mp h).imp_right .inr
  · exact .inr (List.mem_cons.mp h)
  · exact .inr (.inr h)

/-- A sign and digits are read as an integer, unless there are too many digits. -/
theorem readInteger_of_isIntegerText {cs : List Char} (h : Cast.isIntegerText cs = true) :
    readInteger cs =
      if longestNumeral < (splitSign cs).2.length then .error (.tooLong (splitSign cs).2.length)
      else .ok (withSign (splitSign cs).1 (digitsValue 0 (splitSign cs).2)) := by
  rw [Cast.isIntegerText, Bool.and_eq_true, Bool.not_eq_true', List.isEmpty_eq_false_iff,
    List.all_eq_true] at h
  obtain ⟨hne, hdigits⟩ := h
  have htrim : trimNumeral cs = cs := by
    refine trimNumeral_eq_self (List.all_eq_true.mpr fun c hc => ?_)
    rcases mem_splitSign hc with rfl | rfl | hc
    · decide
    · decide
    · exact isKept_of_digit (hdigits c hc)
  have hread : readDigits digit? 10 false 0 (splitSign cs).2 =
      some (digitsValue 0 (splitSign cs).2) := readDigits_digits hdigits (.inr hne) 0
  have hfilter : (splitSign cs).2.filter (· != '_') = (splitSign cs).2 :=
    filter_underscore_eq_self (List.all_eq_true.mpr fun c hc => isKept_of_digit (hdigits c hc))
  simp only [readInteger, htrim, hread, hfilter]

end Number

namespace Cast

/-! ## Other errors than a mismatch -/

/-- A conversion fails with another error than a mismatch. -/
def Escaped {α : Type} (r : Except CastError α) (e : CastError) : Prop :=
  r = .error e ∧ e ≠ .mismatch

section

variable {α β : Type} {e : CastError}

@[simp] theorem not_escaped_ok (a : α) : ¬ Escaped (.ok a) e := nofun

@[simp] theorem not_escaped_mismatch : ¬ Escaped (.error .mismatch : Except CastError α) e := by
  rintro ⟨h, hne⟩
  exact hne (Except.error.inj h).symm

theorem escaped_error_iff {d : CastError} (hd : d ≠ .mismatch) :
    Escaped (.error d : Except CastError α) e ↔ e = d := by
  constructor
  · rintro ⟨h, -⟩
    exact (Except.error.inj h).symm
  · rintro rfl
    exact ⟨rfl, hd⟩

@[simp] theorem not_escaped_orMismatch (o : Option Value) : ¬ Escaped (orMismatch o) e := by
  cases o with
  | none => exact not_escaped_mismatch
  | some v => exact not_escaped_ok v

@[simp] theorem not_escaped_finiteDecimal (o : Option Decimal) : ¬ Escaped (finiteDecimal o) e := by
  unfold finiteDecimal
  split
  · split
    · exact not_escaped_ok _
    · exact not_escaped_mismatch
  · exact not_escaped_mismatch

/-- A chain of conversions fails so at its first part or after it. -/
theorem escaped_bind_iff {x : Except CastError α} {f : α → Except CastError β} :
    Escaped (x >>= f) e ↔ Escaped x e ∨ ∃ a, x = .ok a ∧ Escaped (f a) e := by
  cases x with
  | error d => simp [Escaped, bind, Except.bind]
  | ok a => simp [Escaped, bind, Except.bind]

end

/-! ## Numbers -/

theorem escaped_integer_iff {v : Value} {e : CastError} :
    Escaped (integer v) e ↔ ∃ s, v = .string s ∧ isIntegerText (trim s.toList) = true ∧
      longestNumeral < (splitSign (trim s.toList)).2.length ∧
      e = .longNumeral (splitSign (trim s.toList)).2.length := by
  cases v with
  | string s =>
      simp only [integer, Value.string.injEq, exists_eq_left']
      by_cases htext : isIntegerText (trim s.toList) = true
      · rw [if_pos htext, readInteger_of_isIntegerText htext, and_iff_right htext]
        by_cases hlong : longestNumeral < (splitSign (trim s.toList)).2.length
        · rw [if_pos hlong, and_iff_right hlong]
          exact escaped_error_iff (by simp)
        · rw [if_neg hlong]
          exact iff_of_false (not_escaped_ok _) fun h => hlong h.1
      · rw [if_neg htext]
        exact iff_of_false not_escaped_mismatch fun h => htext h.1
  | _ => simp [integer]

theorem escaped_floatOfInt_iff {i : Int} {e : CastError} :
    Escaped (floatOfInt i) e ↔ Binary64.leastOverflow ≤ i.natAbs ∧ e = .overflow := by
  unfold floatOfInt
  split
  · rename_i s hs
    have hlarge := (Binary64.ofInt_eq_infinity_iff.mp hs).1
    rw [and_iff_right hlarge]
    exact escaped_error_iff (by simp)
  · rename_i hfinite
    refine iff_of_false (not_escaped_ok _) fun h => ?_
    exact hfinite _ (Binary64.ofInt_eq_infinity_iff.mpr ⟨h.1, rfl⟩)

theorem escaped_float_iff {v : Value} {e : CastError} :
    Escaped (float v) e ↔
      (∃ i, v = .int i ∧ Binary64.leastOverflow ≤ i.natAbs ∧ e = .overflow) ∨
      ∃ s payload, v = .decimal (.nan s true payload) ∧ e = .signalingNan := by
  cases v with
  | int i => simp [float, escaped_floatOfInt_iff]
  | decimal d =>
      cases d with
      | nan s signaling payload =>
          cases signaling with
          | true => simpa [float] using escaped_error_iff (by simp)
          | false => simp [float]
      | _ => simp [float]
  | _ => simp [float]

theorem escaped_decimal_iff {v : Value} {e : CastError} :
    Escaped (decimal v) e ↔
      ∃ i, v = .int i ∧ longestNumeral < digitCount i.natAbs ∧ e = .longInteger := by
  cases v with
  | int i =>
      simp only [decimal, Value.int.injEq, exists_eq_left']
      by_cases hlong : longestNumeral < digitCount i.natAbs
      · rw [if_pos hlong, and_iff_right hlong]
        exact escaped_error_iff (by simp)
      · rw [if_neg hlong]
        exact iff_of_false (not_escaped_ok _) fun h => hlong h.1
  | _ => simp [decimal]

/-! ## Parts of dates -/

/-- The values of which no integer is made, and that are no mismatch either. -/
inductive PartEscapes : Value → CastError → Prop where
  | infinity (s : Bool) : PartEscapes (.float (.infinity s)) .overflow
  | decimalInfinity (s : Bool) : PartEscapes (.decimal (.infinity s)) .overflow
  | immense {s : Bool} {c : Nat} {k : Int} (h : mostWholeDigits < Decimal.wholeDigits c k) :
      PartEscapes (.decimal (.finite s c k)) .immense

theorem not_escaped_numeral (cs : List Char) {e : CastError} : ¬ Escaped (datePart.numeral cs) e := by
  unfold datePart.numeral
  split
  · exact not_escaped_ok _
  · exact not_escaped_mismatch

theorem escaped_datePart_iff {v : Value} {e : CastError} :
    Escaped (datePart v) e ↔ PartEscapes v e := by
  constructor
  · intro h
    unfold datePart at h
    split at h
    · exact absurd h (not_escaped_ok _)
    · exact absurd h (not_escaped_ok _)
    · obtain rfl := (escaped_error_iff (by simp)).mp h
      exact .infinity _
    · split at h
      · exact absurd h (not_escaped_ok _)
      · exact absurd h not_escaped_mismatch
    · obtain rfl := (escaped_error_iff (by simp)).mp h
      exact .decimalInfinity _
    · split at h
      · rename_i himmense
        obtain rfl := (escaped_error_iff (by simp)).mp h
        exact .immense himmense
      · exact absurd h (not_escaped_ok _)
    · exact absurd h (not_escaped_numeral _)
    · exact absurd h (not_escaped_numeral _)
    · exact absurd h (not_escaped_ok _)
    · exact absurd h not_escaped_mismatch
  · rintro (s | s | himmense)
    · exact ⟨rfl, by simp⟩
    · exact ⟨rfl, by simp⟩
    · exact ⟨if_pos himmense, by simp⟩

/-- The entry of a map is there, and an integer is made of it. -/
def HasPart (es : Row Value) (name : String) (i : Int) : Prop :=
  ∃ v, es.find? name = some v ∧ datePart v = .ok i

/-- The entry of a map is there, and no integer is made of it although it is no mismatch. -/
def LacksPart (es : Row Value) (name : String) (e : CastError) : Prop :=
  ∃ v, es.find? name = some v ∧ PartEscapes v e

theorem escaped_part_iff {α : Type} {es : Row Value} {name : String}
    {f : Int → Except CastError α} {e : CastError} :
    Escaped (entry es name >>= fun v => datePart v >>= f) e ↔
      LacksPart es name e ∨ ∃ i, HasPart es name i ∧ Escaped (f i) e := by
  simp only [escaped_bind_iff, escaped_datePart_iff, entry, LacksPart, HasPart]
  cases es.find? name with
  | none => simp [orMismatch]
  | some v => simp [orMismatch]

/-- The parts of a date of which no date is made, and that are no mismatch either. They are taken in
order: of a part that comes after one which is missing or no number nothing is seen. -/
inductive DateEscapes (es : Row Value) : CastError → Prop where
  | year {e : CastError} (h : LacksPart es "year" e) : DateEscapes es e
  | month {year : Int} {e : CastError} (hyear : HasPart es "year" year)
      (h : LacksPart es "month" e) : DateEscapes es e
  | day {year month : Int} {e : CastError} (hyear : HasPart es "year" year)
      (hmonth : HasPart es "month" month) (h : LacksPart es "day" e) : DateEscapes es e
  | word {year month day : Int} (hyear : HasPart es "year" year)
      (hmonth : HasPart es "month" month) (hday : HasPart es "day" day)
      (h : ¬ (fitsWord year ∧ fitsWord month ∧ fitsWord day)) : DateEscapes es .overflow

theorem escaped_dateOfParts_iff {es : Row Value} {e : CastError} :
    Escaped (dateOfParts es) e ↔ DateEscapes es e := by
  simp only [dateOfParts, escaped_part_iff]
  constructor
  · rintro (h | ⟨year, hyear, h | ⟨month, hmonth, h | ⟨day, hday, h⟩⟩⟩)
    · exact .year h
    · exact .month hyear h
    · exact .day hyear hmonth h
    · split at h
      · split at h
        · exact absurd h not_escaped_mismatch
        · exact absurd h (not_escaped_orMismatch _)
      · rename_i hword
        obtain rfl := (escaped_error_iff (by simp)).mp h
        exact .word hyear hmonth hday (by simpa [and_assoc] using hword)
  · rintro (h | ⟨hyear, h⟩ | ⟨hyear, hmonth, h⟩ | ⟨hyear, hmonth, hday, hword⟩)
    · exact .inl h
    · exact .inr ⟨_, hyear, .inl h⟩
    · exact .inr ⟨_, hyear, .inr ⟨_, hmonth, .inl h⟩⟩
    · refine .inr ⟨_, hyear, .inr ⟨_, hmonth, .inr ⟨_, hday, ?_⟩⟩⟩
      rw [if_neg (by simpa [and_assoc] using hword)]
      exact ⟨rfl, by simp⟩

end Cast

/-! ## Kinds -/

namespace Kind

/-- The values whose casting to a kind fails with another error than a mismatch. -/
inductive CastEscapes : Kind → Value → CastError → Prop where
  | longNumeral {k : Kind} {s : String} (hk : k = .id ∨ k = .integer)
      (htext : Cast.isIntegerText (trim s.toList) = true)
      (hlong : longestNumeral < (splitSign (trim s.toList)).2.length) :
      CastEscapes k (.string s) (.longNumeral (splitSign (trim s.toList)).2.length)
  | overflow {i : Int} (h : Binary64.leastOverflow ≤ i.natAbs) :
      CastEscapes .float (.int i) .overflow
  | signalingNan (s : Bool) (payload : Nat) :
      CastEscapes .float (.decimal (.nan s true payload)) .signalingNan
  | longInteger {i : Int} (h : longestNumeral < digitCount i.natAbs) :
      CastEscapes .decimal (.int i) .longInteger
  | date {es : Row Value} {e : CastError} (h : Cast.DateEscapes es e) :
      CastEscapes .date (.map es) e

/-- The texts that are no JSON, and the error that tells so. -/
def JsonEscapes (cs : List Char) (e : CastError) : Prop :=
  Json.readChars cs = .error .malformed ∧ e = .malformedJson ∨
    ∃ n, Json.readChars cs = .error (.tooLong n) ∧ e = .longNumeral n

/-- The values whose loading as a kind fails with another error than a mismatch. A text of a map is
read however deep it is nested: no error says that an interpreter ran out of calls. -/
inductive LoadEscapes : Kind → Value → CastError → Prop where
  | cast {k : Kind} {v : Value} {e : CastError} (h : CastEscapes k v e) : LoadEscapes k v e
  | text {s : String} {e : CastError} (h : JsonEscapes s.toList e) : LoadEscapes .map (.string s) e
  | bytes {bs : List UInt8} {cs : List Char} {e : CastError} (hbs : Json.decode? bs = some cs)
      (h : JsonEscapes cs e) : LoadEscapes .map (.binary bs) e
  | malformedBytes {bs : List UInt8} (hbs : Json.decode? bs = none) :
      LoadEscapes .map (.binary bs) .malformedBytes

open Cast

/-- Truth values, texts, clocks, bytes, identifiers and maps are cast, or the value is a
mismatch. -/
theorem not_escaped_castPresent {k : Kind} (hk : k ∉ [.id, .integer, .float, .decimal, .date])
    (v : Value) (e : CastError) : ¬ Escaped (k.castPresent v) e := by
  cases k with
  | boolean =>
      cases v with
      | string s =>
          simp only [castPresent, Cast.boolean]
          split_ifs <;> simp
      | _ => simp [castPresent, Cast.boolean]
  | string => cases v <;> simp [castPresent, Cast.string]
  | time => cases v <;> simp [castPresent, Cast.time]
  | timestamp => cases v <;> simp [castPresent, Cast.timestamp]
  | binary => cases v <;> simp [castPresent, Cast.binary]
  | uuid => cases v <;> simp [castPresent, Cast.uuid]
  | map => cases v <;> simp [castPresent, Cast.map]
  | _ => simp at hk

theorem escaped_date_iff {v : Value} {e : CastError} :
    Escaped (Cast.date v) e ↔ ∃ es, v = .map es ∧ DateEscapes es e := by
  cases v with
  | map es => simp [Cast.date, escaped_dateOfParts_iff]
  | _ => simp [Cast.date]

theorem escaped_castPresent_iff {k : Kind} {v : Value} {e : CastError} :
    Escaped (k.castPresent v) e ↔ CastEscapes k v e := by
  constructor
  · intro h
    by_cases hk : k ∈ [Kind.id, .integer, .float, .decimal, .date]
    · simp only [List.mem_cons, List.not_mem_nil, or_false] at hk
      rcases hk with rfl | rfl | rfl | rfl | rfl
      · obtain ⟨s, rfl, htext, hlong, rfl⟩ := escaped_integer_iff.mp h
        exact .longNumeral (.inl rfl) htext hlong
      · obtain ⟨s, rfl, htext, hlong, rfl⟩ := escaped_integer_iff.mp h
        exact .longNumeral (.inr rfl) htext hlong
      · obtain ⟨i, rfl, hlarge, rfl⟩ | ⟨s, payload, rfl, rfl⟩ := escaped_float_iff.mp h
        · exact .overflow hlarge
        · exact .signalingNan s payload
      · obtain ⟨i, rfl, hlong, rfl⟩ := escaped_decimal_iff.mp h
        exact .longInteger hlong
      · obtain ⟨es, rfl, hparts⟩ := escaped_date_iff.mp h
        exact .date hparts
    · exact absurd h (not_escaped_castPresent hk v e)
  · intro h
    cases h with
    | longNumeral hk htext hlong =>
        have hinteger := escaped_integer_iff.mpr ⟨_, rfl, htext, hlong, rfl⟩
        rcases hk with rfl | rfl
        · exact hinteger
        · exact hinteger
    | overflow h => exact escaped_float_iff.mpr (.inl ⟨_, rfl, h, rfl⟩)
    | signalingNan s payload => exact escaped_float_iff.mpr (.inr ⟨s, payload, rfl, rfl⟩)
    | longInteger h => exact escaped_decimal_iff.mpr ⟨_, rfl, h, rfl⟩
    | date h => exact escaped_date_iff.mpr ⟨_, rfl, h⟩

/-- Casting fails with another error than a mismatch for these values, and no others. -/
theorem escaped_cast_iff {k : Kind} {v : Value} {e : CastError} :
    Escaped (k.cast v) e ↔ CastEscapes k v e := by
  cases v with
  | null =>
      refine iff_of_false (not_escaped_ok _) fun h => ?_
      cases h
  | _ => exact escaped_castPresent_iff

theorem escaped_loadJson_iff {cs : List Char} {e : CastError} :
    Escaped (loadJson cs) e ↔ JsonEscapes cs e := by
  unfold loadJson JsonEscapes
  split
  · rename_i v hread
    simp [hread]
  · rename_i hread
    simpa [hread] using escaped_error_iff (by simp)
  · rename_i n hread
    simpa [hread] using escaped_error_iff (by simp)

theorem escaped_loadBytes_iff {bs : List UInt8} {e : CastError} :
    Escaped (Kind.map.load (.binary bs)) e ↔ LoadEscapes .map (.binary bs) e := by
  cases hbs : Json.decode? bs with
  | none =>
      have hload : Kind.map.load (.binary bs) = .error .malformedBytes := by simp only [load, hbs]
      rw [hload]
      constructor
      · intro h
        obtain rfl := (escaped_error_iff (by simp)).mp h
        exact .malformedBytes hbs
      · rintro (h | _ | ⟨hcs, -⟩ | _)
        · cases h
        · simp [hbs] at hcs
        · exact ⟨rfl, by simp⟩
  | some cs =>
      have hload : Kind.map.load (.binary bs) = loadJson cs := by simp only [load, hbs]
      rw [hload, escaped_loadJson_iff]
      constructor
      · exact .bytes hbs
      · rintro (h | _ | ⟨hcs, h⟩ | hnone)
        · cases h
        · obtain rfl := Option.some.inj (hbs.symm.trans hcs)
          exact h
        · simp [hbs] at hnone

/-- Loading fails with another error than a mismatch for these values, and no others. -/
theorem escaped_load_iff {k : Kind} {v : Value} {e : CastError} :
    Escaped (k.load v) e ↔ LoadEscapes k v e := by
  by_cases hbytes : k = .map ∧ ∃ bs, v = .binary bs
  · obtain ⟨rfl, bs, rfl⟩ := hbytes
    exact escaped_loadBytes_iff
  by_cases htext : k = .map ∧ ∃ s, v = .string s
  · obtain ⟨rfl, s, rfl⟩ := htext
    refine escaped_loadJson_iff.trans ⟨.text, fun h => ?_⟩
    cases h with
    | cast h =>
        exact absurd (escaped_castPresent_iff.mpr h) (not_escaped_castPresent (by decide) _ _)
    | text h => exact h
  have hcast : LoadEscapes k v e ↔ CastEscapes k v e := by
    refine ⟨fun h => ?_, .cast⟩
    cases h with
    | cast h => exact h
    | text => exact absurd ⟨rfl, _, rfl⟩ htext
    | bytes => exact absurd ⟨rfl, _, rfl⟩ hbytes
    | malformedBytes => exact absurd ⟨rfl, _, rfl⟩ hbytes
  rw [hcast]
  unfold load
  split
  · refine iff_of_false (not_escaped_ok _) fun h => ?_
    cases h
  · rename_i b
    have hsmall : ¬ Binary64.leastOverflow ≤ (if b then (1 : Int) else 0).natAbs := by
      cases b <;> decide +kernel
    refine iff_of_false (fun h => hsmall (escaped_floatOfInt_iff.mp h).1) fun h => ?_
    cases h
  · exact absurd ⟨rfl, _, rfl⟩ htext
  · exact absurd ⟨rfl, _, rfl⟩ hbytes
  · refine iff_of_false ?_ fun h => by cases h
    split
    · exact not_escaped_ok _
    · exact not_escaped_mismatch
  · exact escaped_cast_iff

end Kind

end RecordMapper
