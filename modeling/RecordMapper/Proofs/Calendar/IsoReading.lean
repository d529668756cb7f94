import RecordMapper.Calendar.IsoText
import RecordMapper.Proofs.Calendar.ClockText
import RecordMapper.Proofs.Text.Trimming

/-! # Dates and times are read back

The text of a date is read as that date, and the text of a clock as that clock. Only an offset of
less than a second is lost: universal time is read instead of it. -/

namespace RecordMapper.Calendar

open Text

/-! ## Fields of fixed width -/

theorem takeDigits_append (count acc : Nat) {ds : List Char} (hds : ∀ c ∈ ds, c.isDigit = true)
    (hlength : ds.length = count) (rest : List Char) :
    takeDigits count acc (ds ++ rest) = some (digitsValue acc ds, rest) := by
  subst hlength
  induction ds generalizing acc with
  | nil => rfl
  | cons d ds ih =>
      have hd : d.isDigit = true := hds d (by simp)
      have hascii : asciiDigit? d = some (d.toNat - 48) := if_pos hd
      simp only [List.length_cons, List.cons_append, takeDigits, hascii, digitsValue,
        digit?_of_isDigit hd, Option.getD_some]
      exact ih _ fun c hc => hds c (by simp [hc])

theorem takeDigits_padded {width n : Nat} (hwidth : 0 < width) (h : n < 10 ^ width)
    (rest : List Char) : takeDigits width 0 (padded width n ++ rest) = some (n, rest) := by
  rw [takeDigits_append width 0 (fun _ => isDigit_of_mem_padded) (length_padded hwidth h),
    digitsValue_padded]

theorem utf8Size_of_isDigit {c : Char} (h : c.isDigit = true) : c.utf8Size = 1 := by
  have hrange := toNat_of_isDigit h
  apply Char.utf8Size_eq_one_iff.mpr
  apply UInt32.le_iff_toNat_le.mpr
  exact Nat.le_trans (Nat.le_of_lt hrange.2) (by decide)

theorem utf8ByteSize_ofList {cs : List Char} (h : ∀ c ∈ cs, c.utf8Size = 1) :
    (String.ofList cs).utf8ByteSize = cs.length := by
  induction cs with
  | nil => rfl
  | cons c cs ih =>
      rw [String.ofList_cons, String.utf8ByteSize_append, String.utf8ByteSize_singleton,
        h c (by simp), ih fun d hd => h d (by simp [hd]), List.length_cons, Nat.add_comm]

/-! ## Dates -/

namespace Date

theorem readMonthDay_chars (d : Date) :
    readMonthDay d.year true (padded 2 d.month ++ '-' :: padded 2 d.day) = some d := by
  obtain ⟨-, hmonth, hday⟩ := d.fields_lt
  have hmonth : takeDigits 2 0 (padded 2 d.month ++ '-' :: padded 2 d.day) =
      some (d.month, '-' :: padded 2 d.day) := takeDigits_padded (by decide) hmonth _
  have hday : takeDigits 2 0 (padded 2 d.day) = some (d.day, []) := by
    simpa using takeDigits_padded (by decide) hday []
  simp only [readMonthDay, hmonth, hday, Option.bind_eq_bind, Option.bind_some, if_true]
  exact dif_pos d.valid

theorem readFront_chars (d : Date) : readFront d.chars = some d := by
  obtain ⟨hyear, -, -⟩ := d.fields_lt
  obtain ⟨c, cs, hmonth, hc⟩ := exists_padded 2 d.month
  have hweek : c ≠ 'W' := ne_of_isDigit hc (by decide)
  have hyear : takeDigits 4 0 d.chars =
      some (d.year, '-' :: (padded 2 d.month ++ '-' :: padded 2 d.day)) := by
    simpa [chars] using takeDigits_padded (by decide) hyear _
  have hrest := readMonthDay_chars d
  simp only [readFront, hyear, Option.bind_eq_bind, Option.bind_some]
  rw [hmonth, List.cons_append] at hrest ⊢
  split
  · rename_i heq
    exact absurd (List.cons.inj heq).1 hweek
  · exact hrest

theorem ofChars?_chars (d : Date) : ofChars? d.chars = some d := by
  have hascii : ∀ c ∈ d.chars, c.utf8Size = 1 := by
    have hdash : '-'.utf8Size = 1 := by decide
    have hdigits : ∀ width n, ∀ c ∈ padded width n, c.utf8Size = 1 := by
      intro width n c hc
      exact utf8Size_of_isDigit (isDigit_of_mem_padded hc)
    simp only [chars, List.forall_mem_append, List.forall_mem_cons]
    exact ⟨⟨hdigits 4 d.year, hdash, hdigits 2 d.month⟩, hdash, hdigits 2 d.day⟩
  have hsize : (String.ofList d.chars).utf8ByteSize = 10 := by
    rw [utf8ByteSize_ofList hascii, length_chars]
  simp only [ofChars?, hsize, or_true, if_true]
  exact d.readFront_chars

end Date

/-! ## Clocks -/

/-- The fraction of a second in a text, left out when it is zero. -/
def fraction (micro : Nat) : List Char := if micro = 0 then [] else '.' :: padded 6 micro

/-- Whether the character stands in texts of clocks apart from signs. -/
def isClockChar (c : Char) : Bool := c.isDigit || c == ':' || c == '.'

@[simp] theorem all_isClockChar_padded (width n : Nat) : (padded width n).all isClockChar = true := by
  apply List.all_eq_true.mpr
  intro c hc
  rw [isClockChar, isDigit_of_mem_padded hc, Bool.true_or, Bool.true_or]

@[simp] theorem all_isClockChar_colonTwo (n : Nat) : (Offset.colonTwo n).all isClockChar = true :=
  all_isClockChar_padded 2 n

@[simp] theorem all_isClockChar_fraction (micro : Nat) : (fraction micro).all isClockChar = true := by
  unfold fraction
  split
  · rfl
  · exact all_isClockChar_padded 6 micro

theorem isKept_of_isClockChar {c : Char} (h : isClockChar c = true) : isKept c = true := by
  simp only [isClockChar, Bool.or_eq_true, beq_iff_eq] at h
  rcases h with (hdigit | rfl) | rfl
  · exact isKept_of_isDigit hdigit
  · decide
  · decide

theorem beginsOffset_of_isClockChar {c : Char} (h : isClockChar c = true) :
    beginsOffset c = false := by
  simp only [isClockChar, Bool.or_eq_true, beq_iff_eq] at h
  rcases h with (hdigit | rfl) | rfl
  · have hplus : c ≠ '+' := ne_of_isDigit hdigit (by decide)
    have hminus : c ≠ '-' := ne_of_isDigit hdigit (by decide)
    have hzulu : c ≠ 'Z' := ne_of_isDigit hdigit (by decide)
    simp [beginsOffset, hplus, hminus, hzulu]
  · decide
  · decide

namespace ClockFields

variable {f : ClockFields} {place n : Nat} {separated : Bool}

theorem readFraction_padded {micro : Nat} (hmicro : micro < 1000000) :
    readFraction f (padded 6 micro) = some ({ f with micro := micro }, true) := by
  have hlength : (padded 6 micro).length = 6 := length_padded (by decide) hmicro
  have hdigits : takeDigits 6 0 (padded 6 micro) = some (micro, []) := by
    simpa using takeDigits_padded (by decide) hmicro []
  simp [readFraction, hlength, hdigits, atEnd]

/-- One field is read with the colon that follows it, if colons separate the fields. -/
theorem readFields_colon (hn : n < 100) (hcolons : place = 0 ∨ separated = true) (todo : Nat)
    {cs : List Char} (hcs : cs ≠ []) :
    readFields f place separated (todo + 1) (padded 2 n ++ ':' :: cs) =
      readFields (f.set place n) (place + 1) true todo cs := by
  obtain ⟨c, cs, rfl⟩ := List.exists_cons_of_ne_nil hcs
  have hdigits : takeDigits 2 0 (padded 2 n ++ ':' :: c :: cs) = some (n, ':' :: c :: cs) :=
    takeDigits_padded (by decide) hn _
  have hseparated : (if place = 0 then true else separated) = true := by
    rcases hcolons with rfl | rfl <;> simp
  simp only [readFields, hdigits, Option.bind_eq_bind, Option.bind_some, beq_self_eq_true,
    hseparated, Bool.and_true, if_true]

@[simp] theorem micro_set (f : ClockFields) (place value : Nat) :
    (f.set place value).micro = f.micro := by
  unfold set
  split <;> rfl

/-- The last field that is written is read with the fraction that follows it. -/
theorem readFields_fraction (hn : n < 100) {micro : Nat} (hmicro : micro < 1000000)
    (hzero : f.micro = 0) (todo : Nat) :
    readFields f place separated (todo + 1) (padded 2 n ++ fraction micro) =
      some ({ f.set place n with micro := micro }, true) := by
  have hdigits : takeDigits 2 0 (padded 2 n ++ fraction micro) = some (n, fraction micro) :=
    takeDigits_padded (by decide) hn _
  simp only [readFields, hdigits, Option.bind_eq_bind, Option.bind_some]
  by_cases hnone : micro = 0
  · have hmicros : (f.set place n).micro = 0 := by rw [micro_set, hzero]
    simp only [fraction, if_pos hnone]
    rw [hnone, ← hmicros]
  · obtain ⟨c, cs, hpadded, -⟩ := exists_padded 6 micro
    have hfraction := readFraction_padded (f := f.set place n) hmicro
    rw [hpadded] at hfraction
    have hpoint : ('.' == ':') = false := by decide
    simp only [fraction, if_neg hnone, hpadded, hpoint, Bool.and_false, Bool.false_eq_true, if_false,
      true_or, if_true, hfraction]

section

variable {hour minute second micro : Nat} (hhour : hour < 100) (hminute : minute < 100)

include hhour hminute

theorem read_minutes :
    read (padded 2 hour ++ Offset.colonTwo minute) = some (⟨hour, minute, 0, 0⟩, true) := by
  obtain ⟨c, cs, hpadded, -⟩ := exists_padded 2 minute
  have hlast : readFields ⟨hour, 0, 0, 0⟩ 1 true 2 (padded 2 minute ++ fraction 0) =
      some (⟨hour, minute, 0, 0⟩, true) :=
    readFields_fraction hminute (by decide) rfl 1
  simp only [fraction, if_true, List.append_nil] at hlast
  rw [read, Offset.colonTwo, readFields_colon hhour (.inl rfl) 2 (by simp [hpadded])]
  exact hlast

theorem read_seconds (hsecond : second < 100) (hmicro : micro < 1000000) :
    read (padded 2 hour ++ (Offset.colonTwo minute ++ (Offset.colonTwo second ++ fraction micro))) =
      some (⟨hour, minute, second, micro⟩, true) := by
  obtain ⟨c, cs, hminutes, -⟩ := exists_padded 2 minute
  obtain ⟨d, ds, hseconds, -⟩ := exists_padded 2 second
  simp only [read, Offset.colonTwo, List.cons_append]
  rw [readFields_colon hhour (.inl rfl) 2 (by simp [hminutes]),
    readFields_colon hminute (.inr rfl) 1 (by simp [hseconds]),
    readFields_fraction hsecond hmicro rfl 0]
  rfl

end

end ClockFields

/-! ## Offsets -/

namespace Offset

/-- The offset that is read from the text of an offset. -/
def asRead (o : Offset) : Offset := if o.micros.natAbs < 1000000 then utc else o

/-- Whether the offset is less than a second without being none. -/
def IsSlight (o : Offset) : Prop := o.micros ≠ 0 ∧ o.micros.natAbs < 1000000

theorem asRead_eq_iff (o : Offset) : o.asRead = o ↔ ¬o.IsSlight := by
  unfold asRead IsSlight
  split
  · rename_i hsmall
    have hutc : utc = o ↔ o.micros = 0 := by
      cases o
      simp [utc, eq_comm]
    simp [hutc, hsmall]
  · rename_i hlarge
    simp [hlarge]

/-- The sign of an offset. -/
def sign (o : Offset) : Char := if o.micros < 0 then '-' else '+'

/-- The text of an offset without its sign. -/
def clockChars (o : Offset) : List Char :=
  let seconds := o.micros.natAbs / 1000000
  let micros := o.micros.natAbs % 1000000
  padded 2 (seconds / 3600) ++ (colonTwo (seconds / 60 % 60) ++
    ((if seconds % 60 = 0 ∧ micros = 0 then [] else colonTwo (seconds % 60)) ++ fraction micros))

theorem chars_eq (o : Offset) : o.chars = o.sign :: o.clockChars := by
  simp only [chars, clockChars, sign, fraction, List.cons_append, List.append_assoc]

theorem all_isClockChar (o : Offset) : o.clockChars.all isClockChar = true := by
  unfold clockChars
  dsimp only
  split <;> simp

theorem read_clockChars (o : Offset) :
    ClockFields.read o.clockChars =
      some (⟨o.micros.natAbs / 1000000 / 3600, o.micros.natAbs / 1000000 / 60 % 60,
        o.micros.natAbs / 1000000 % 60, o.micros.natAbs % 1000000⟩, true) := by
  have hvalid := o.valid
  rw [microsPerDay] at hvalid
  unfold clockChars
  dsimp only
  split
  · rename_i hzero
    rw [hzero.1, hzero.2, fraction, if_pos rfl, List.append_nil, List.append_nil]
    exact ClockFields.read_minutes (by omega) (by omega)
  · exact ClockFields.read_seconds (by omega) (by omega) (by omega) (by omega)

theorem of?_micros (o : Offset) : of? o.micros = some o := dif_pos o.valid

/-- A sign and the fields of a clock are read as the microseconds that they amount to. -/
theorem ofChars?_sign (o : Offset) {cs : List Char} {f : ClockFields}
    (h : ClockFields.read cs = some (f, true)) :
    ofChars? (o.sign :: cs) =
      let size : Int := if f.seconds = 0 then 0 else (f.seconds * 1000000 + f.micro : Nat)
      of? (if o.micros < 0 then -size else size) := by
  unfold sign
  split <;> simp [ofChars?, h]

theorem ofChars?_chars (o : Offset) : ofChars? o.chars = some o.asRead := by
  rw [chars_eq, ofChars?_sign o o.read_clockChars]
  have hseconds : ClockFields.seconds ⟨o.micros.natAbs / 1000000 / 3600,
      o.micros.natAbs / 1000000 / 60 % 60, o.micros.natAbs / 1000000 % 60,
      o.micros.natAbs % 1000000⟩ = o.micros.natAbs / 1000000 := by
    simp only [ClockFields.seconds]
    omega
  simp only [hseconds, asRead]
  by_cases hsmall : o.micros.natAbs < 1000000
  · have hnone : o.micros.natAbs / 1000000 = 0 := Nat.div_eq_of_lt hsmall
    simp only [if_pos hnone, if_pos hsmall, Int.neg_zero, ite_self]
    rfl
  · have hsome : o.micros.natAbs / 1000000 ≠ 0 := by omega
    have hmicros : o.micros.natAbs / 1000000 * 1000000 + o.micros.natAbs % 1000000 =
        o.micros.natAbs := by
      omega
    have hsigned : (if o.micros < 0 then -(o.micros.natAbs : Int) else o.micros.natAbs) =
        o.micros := by
      split <;> omega
    simp only [if_neg hsome, if_neg hsmall, hmicros, hsigned]
    exact o.of?_micros

end Offset

/-! ## Times of day -/

namespace Time

/-- The time that is read from the text of a time. -/
def asRead (t : Time) : Time := { t with offset := t.offset.map Offset.asRead }

/-- Whether the time has an offset of less than a second that is not none. -/
def HasSlightOffset (t : Time) : Prop := ∃ o, t.offset = some o ∧ o.IsSlight

theorem asRead_eq_iff (t : Time) : t.asRead = t ↔ ¬t.HasSlightOffset := by
  obtain ⟨hour, minute, second, micro, valid, offset⟩ := t
  cases offset with
  | none => simp [asRead, HasSlightOffset]
  | some o => simp [asRead, HasSlightOffset, o.asRead_eq_iff]

/-- The text of a time without its offset. -/
def clockChars (t : Time) : List Char :=
  padded 2 t.hour ++ (Offset.colonTwo t.minute ++ (Offset.colonTwo t.second ++ fraction t.micro))

theorem chars_eq_append (t : Time) : t.chars = t.clockChars ++ Offset.optionChars t.offset := by
  simp only [chars_eq, clockChars, fraction, List.append_assoc]

theorem read_clockChars (t : Time) :
    ClockFields.read t.clockChars = some (⟨t.hour, t.minute, t.second, t.micro⟩, true) := by
  obtain ⟨hhour, hminute, hsecond, hmicro⟩ := t.valid
  exact ClockFields.read_seconds (by omega) (by omega) (by omega) hmicro

theorem all_isClockChar (t : Time) : t.clockChars.all isClockChar = true := by
  simp [clockChars]

theorem of?_asRead (t : Time) :
    of? t.hour t.minute t.second t.micro (t.offset.map Offset.asRead) = some t.asRead :=
  dif_pos t.valid

/-- The offset begins where the first sign stands. -/
theorem readClock_chars (t : Time) : readClock t.chars = some t.asRead := by
  have hclock : ∀ c ∈ t.clockChars, (!beginsOffset c) = true := by
    intro c hc
    have hchar : isClockChar c = true := List.all_eq_true.mp t.all_isClockChar c hc
    rw [beginsOffset_of_isClockChar hchar, Bool.not_false]
  have hread := t.read_clockChars
  have hof := t.of?_asRead
  rw [chars_eq_append, readClock, List.takeWhile_append_of_pos hclock,
    List.dropWhile_append_of_pos hclock]
  cases hoffset : t.offset with
  | none =>
      rw [hoffset] at hof
      simpa [Offset.optionChars, hread] using hof
  | some o =>
      rw [hoffset] at hof
      have hsign : beginsOffset o.sign = true := by
        unfold Offset.sign
        split <;> rfl
      have hoffsetRead := o.ofChars?_chars
      simp only [Offset.optionChars]
      rw [o.chars_eq] at hoffsetRead ⊢
      simpa [hsign, hread, hoffsetRead] using hof

theorem exists_chars (t : Time) : ∃ c cs, t.chars = c :: cs ∧ c.isDigit = true := by
  obtain ⟨c, cs, hhour, hc⟩ := exists_padded 2 t.hour
  rw [chars_eq, hhour]
  exact ⟨c, _, rfl, hc⟩

theorem ofChars?_chars (t : Time) : ofChars? t.chars = some t.asRead := by
  obtain ⟨c, cs, hchars, hc⟩ := t.exists_chars
  have hletter : c ≠ 'T' := ne_of_isDigit hc (by decide)
  have hread := t.readClock_chars
  rw [hchars] at hread ⊢
  unfold ofChars?
  split
  · rename_i heq
    exact absurd (List.cons.inj heq).1 hletter
  · exact hread

end Time

/-! ## Timestamps -/

namespace Timestamp

/-- The timestamp that is read from the text of a timestamp. -/
def asRead (t : Timestamp) : Timestamp := { t with time := t.time.asRead }

theorem asRead_eq_iff (t : Timestamp) : t.asRead = t ↔ ¬t.time.HasSlightOffset := by
  rw [← t.time.asRead_eq_iff]
  cases t
  simp [asRead]

/-- The date of a text that begins as the text of a date has ten characters. -/
theorem dateLength_append (d : Date) (cs : List Char) : dateLength (d.chars ++ cs) = 10 := by
  have hlength : (d.chars ++ cs).length ≠ 7 := by
    rw [List.length_append, d.length_chars]
    omega
  obtain ⟨hyear, -, -⟩ := d.fields_lt
  have hwidth : (padded 4 d.year).length = 4 := length_padded (by decide) hyear
  obtain ⟨c, month, hmonth, hc⟩ := exists_padded 2 d.month
  have hweek : c ≠ 'W' := ne_of_isDigit hc (by decide)
  have hdash : (d.chars ++ cs)[4]? = some '-' := by
    simp [Date.chars, hwidth]
  have hdigit : (d.chars ++ cs)[5]? = some c := by
    simp [Date.chars, List.getElem?_append_right, hwidth, hmonth]
  simp only [dateLength, if_neg hlength, hdash, hdigit, Option.some.injEq, if_neg hweek, if_true]

theorem ofChars?_chars (t : Timestamp) : ofChars? t.chars = some t.asRead := by
  have hlength := t.date.length_chars
  have hdate : t.chars.take 10 = t.date.chars := List.take_left' hlength
  have htime : t.chars.drop 10 = 'T' :: t.time.chars := List.drop_left' hlength
  have hwidth : dateLength t.chars = 10 := dateLength_append t.date _
  simp only [ofChars?, hwidth, hdate, htime, t.date.readFront_chars, t.time.readClock_chars,
    Option.bind_eq_bind, Option.bind_some]
  rfl

end Timestamp

/-! ## Nothing to be dropped -/

theorem Date.all_isKept (d : Date) : d.chars.all isKept = true := by
  have hdash : isKept '-' = true := by decide
  simp [chars, hdash]

theorem Offset.all_isKept (o : Option Offset) : (optionChars o).all isKept = true := by
  cases o with
  | none => rfl
  | some o =>
      have hsign : isKept o.sign = true := by
        unfold sign
        split <;> decide
      rw [optionChars, o.chars_eq, List.all_cons, hsign, Bool.true_and, List.all_eq_true]
      exact fun c hc => isKept_of_isClockChar (List.all_eq_true.mp o.all_isClockChar c hc)

theorem Time.all_isKept (t : Time) : t.chars.all isKept = true := by
  rw [chars_eq_append, List.all_append, Offset.all_isKept, Bool.and_true, List.all_eq_true]
  exact fun c hc => isKept_of_isClockChar (List.all_eq_true.mp t.all_isClockChar c hc)

theorem Timestamp.all_isKept (t : Timestamp) : t.chars.all isKept = true := by
  have hletter : isKept 'T' = true := by decide
  rw [chars, List.all_append, List.all_cons, t.date.all_isKept, t.time.all_isKept, hletter]
  rfl

end RecordMapper.Calendar
