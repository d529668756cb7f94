import RecordMapper.Calendar.Time
import RecordMapper.Proofs.Text.Numerals

/-! # Reading the text of dates and times

The text of a date, of a time of day and of a timestamp keeps all their fields and the offset, so
two of them with one text are the same. -/

namespace RecordMapper.Calendar

open Text

/-! ## Fields -/

theorem padded_two_inj {m n : Nat} (hm : m < 100) (hn : n < 100) {as bs : List Char}
    (h : padded 2 m ++ as = padded 2 n ++ bs) : m = n ∧ as = bs :=
  padded_append_inj (by decide) hm hn h

theorem colonTwo_inj {m n : Nat} (hm : m < 100) (hn : n < 100) {as bs : List Char}
    (h : Offset.colonTwo m ++ as = Offset.colonTwo n ++ bs) : m = n ∧ as = bs :=
  padded_two_inj hm hn (List.cons.inj h).2

/-- A fraction of a second is read off the text, whether it is written or not. -/
theorem fraction_inj {m n : Nat} (hm : m < 1000000) (hn : n < 1000000) {as bs : List Char}
    (ha : as.head? ≠ some '.') (hb : bs.head? ≠ some '.')
    (h : (if m = 0 then [] else '.' :: padded 6 m) ++ as =
      (if n = 0 then [] else '.' :: padded 6 n) ++ bs) : m = n ∧ as = bs := by
  split at h <;> split at h
  · exact ⟨by omega, h⟩
  · rw [List.nil_append] at h
    exact absurd (by rw [h]; rfl) ha
  · rw [List.nil_append] at h
    exact absurd (by rw [← h]; rfl) hb
  · exact padded_append_inj (by decide) hm hn (List.cons.inj h).2

/-! ## Dates -/

theorem daysInMonth_le (year month : Nat) : daysInMonth year month ≤ 31 := by
  unfold daysInMonth
  split <;> split <;> omega

theorem Date.fields_lt (d : Date) : d.year < 10000 ∧ d.month < 100 ∧ d.day < 100 := by
  obtain ⟨-, hyear, -, hmonth, -, hday⟩ := d.valid
  have hdays := daysInMonth_le d.year d.month
  omega

theorem Date.length_chars (d : Date) : d.chars.length = 10 := by
  obtain ⟨hyear, hmonth, hday⟩ := d.fields_lt
  simp only [chars, List.length_append, List.length_cons]
  rw [length_padded (by decide) hyear, length_padded (by decide) hmonth,
    length_padded (by decide) hday]

theorem Date.chars_injective {d e : Date} (h : d.chars = e.chars) : d = e := by
  obtain ⟨hyear, hmonth, hday⟩ := d.fields_lt
  obtain ⟨hyear', hmonth', hday'⟩ := e.fields_lt
  simp only [chars, List.append_assoc, List.cons_append] at h
  obtain ⟨heqYear, h⟩ := padded_append_inj (by decide) hyear hyear' h
  obtain ⟨heqMonth, h⟩ := padded_two_inj hmonth hmonth' (List.cons.inj h).2
  have heqDay := padded_injective (List.cons.inj h).2
  cases d
  cases e
  simp_all

/-! ## Offsets -/

/-- Seconds that are left out with the microseconds are read off the text. -/
theorem seconds_inj {s t m n : Nat} (hs : s < 60) (ht : t < 60) (hm : m < 1000000)
    (hn : n < 1000000)
    (h : (if s = 0 ∧ m = 0 then [] else Offset.colonTwo s) ++
        (if m = 0 then [] else '.' :: padded 6 m) =
      (if t = 0 ∧ n = 0 then [] else Offset.colonTwo t) ++
        (if n = 0 then [] else '.' :: padded 6 n)) : s = t ∧ m = n := by
  by_cases hzero : s = 0 ∧ m = 0
  · by_cases hzero' : t = 0 ∧ n = 0
    · omega
    · simp [hzero, hzero', Offset.colonTwo] at h
  · by_cases hzero' : t = 0 ∧ n = 0
    · simp [hzero, hzero', Offset.colonTwo] at h
    · rw [if_neg hzero, if_neg hzero'] at h
      obtain ⟨hseconds, h⟩ := colonTwo_inj (by omega) (by omega) h
      rw [← List.append_nil (ite _ _ _), ← List.append_nil (ite (n = 0) _ _)] at h
      exact ⟨hseconds, (fraction_inj hm hn (by simp) (by simp) h).1⟩

/-- The sign, the hours and the minutes, then seconds unless they and the microseconds are zero,
then microseconds unless they are zero. -/
theorem Offset.chars_injective {o p : Offset} (h : o.chars = p.chars) : o = p := by
  have ho := o.valid
  have hp := p.valid
  rw [microsPerDay] at ho hp
  simp only [chars, List.cons_append, List.append_assoc, List.cons.injEq] at h
  obtain ⟨hsign, h⟩ := h
  obtain ⟨hhours, h⟩ := padded_two_inj (by omega) (by omega) h
  obtain ⟨hminutes, h⟩ := colonTwo_inj (by omega) (by omega) h
  have hrest : o.micros.natAbs / 1000000 % 60 = p.micros.natAbs / 1000000 % 60 ∧
      o.micros.natAbs % 1000000 = p.micros.natAbs % 1000000 :=
    seconds_inj (by omega) (by omega) (by omega) (by omega) h
  have hmicros : o.micros = p.micros := by
    have habs : o.micros.natAbs = p.micros.natAbs := by omega
    split at hsign <;> split at hsign
    · omega
    · exact absurd hsign (by decide)
    · exact absurd hsign (by decide)
    · omega
  cases o
  cases p
  simpa using hmicros

theorem Offset.exists_chars (o : Offset) : ∃ c cs, o.chars = c :: cs ∧ c ≠ '.' := by
  refine ⟨_, _, rfl, ?_⟩
  split <;> decide

/-! ## Times of day -/

/-- The text of an offset, empty where there is none. -/
def Offset.optionChars : Option Offset → List Char
  | none => []
  | some o => o.chars

theorem Offset.head?_optionChars (o : Option Offset) : (optionChars o).head? ≠ some '.' := by
  cases o with
  | none => simp [optionChars]
  | some o =>
      obtain ⟨c, cs, hchars, hc⟩ := o.exists_chars
      simpa [optionChars, hchars] using hc

theorem Offset.optionChars_injective {o p : Option Offset} (h : optionChars o = optionChars p) :
    o = p := by
  cases o with
  | none =>
      cases p with
      | none => rfl
      | some p =>
          obtain ⟨c, cs, hchars, -⟩ := p.exists_chars
          rw [optionChars, optionChars, hchars] at h
          cases h
  | some o =>
      cases p with
      | none =>
          obtain ⟨c, cs, hchars, -⟩ := o.exists_chars
          rw [optionChars, optionChars, hchars] at h
          cases h
      | some p => rw [chars_injective h]

theorem Time.chars_eq (t : Time) :
    t.chars = padded 2 t.hour ++ (Offset.colonTwo t.minute ++ (Offset.colonTwo t.second ++
      ((if t.micro = 0 then [] else '.' :: padded 6 t.micro) ++
        Offset.optionChars t.offset))) := by
  simp only [chars, List.append_assoc]
  cases t.offset <;> rfl

theorem Time.chars_injective {t u : Time} (h : t.chars = u.chars) : t = u := by
  obtain ⟨hhour, hminute, hsecond, hmicro⟩ := t.valid
  obtain ⟨hhour', hminute', hsecond', hmicro'⟩ := u.valid
  rw [chars_eq, chars_eq] at h
  obtain ⟨heqHour, h⟩ := padded_two_inj (by omega) (by omega) h
  obtain ⟨heqMinute, h⟩ := colonTwo_inj (by omega) (by omega) h
  obtain ⟨heqSecond, h⟩ := colonTwo_inj (by omega) (by omega) h
  obtain ⟨heqMicro, h⟩ := fraction_inj hmicro hmicro' (Offset.head?_optionChars _)
    (Offset.head?_optionChars _) h
  have heqOffset := Offset.optionChars_injective h
  cases t
  cases u
  simp_all

/-! ## Timestamps -/

theorem Timestamp.chars_injective {t u : Timestamp} (h : t.chars = u.chars) : t = u := by
  obtain ⟨hdate, htime⟩ :=
    List.append_inj h (by rw [Date.length_chars, Date.length_chars])
  obtain ⟨date, time⟩ := t
  obtain ⟨date', time'⟩ := u
  obtain rfl : date = date' := Date.chars_injective hdate
  obtain rfl : time = time' := Time.chars_injective (List.cons.inj htime).2
  rfl

theorem Time.text_injective {t u : Time} (h : t.text = u.text) : t = u :=
  chars_injective (String.ofList_injective h)

theorem Date.text_injective {d e : Date} (h : d.text = e.text) : d = e :=
  chars_injective (String.ofList_injective h)

theorem Timestamp.text_injective {t u : Timestamp} (h : t.text = u.text) : t = u :=
  chars_injective (String.ofList_injective h)

end RecordMapper.Calendar
