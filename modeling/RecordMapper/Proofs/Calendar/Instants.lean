import Mathlib.Order.Monotone.Basic
import RecordMapper.Calendar.Time

/-! # Instants

Different dates have different day numbers: a year ends before the next one begins, and so does a
month within a year. Times and timestamps without an offset that compare as equal are the same. -/

namespace RecordMapper.Calendar

/-- The number of days of a year. -/
def daysInYear (year : Nat) : Nat := if isLeap year then 366 else 365

namespace Date

/-! ## Years -/

/-- A year is a day longer every fourth year, but every hundredth year only when it is a four
hundredth one. -/
theorem daysInYear_eq (year : Nat) :
    daysInYear year + (if 100 ∣ year then 1 else 0) =
      365 + (if 4 ∣ year then 1 else 0) + (if 400 ∣ year then 1 else 0) := by
  have h100 : 400 ∣ year → 100 ∣ year := Nat.dvd_trans (by decide)
  have h4 : 100 ∣ year → 4 ∣ year := Nat.dvd_trans (by decide)
  simp only [daysInYear, isLeap, Bool.and_eq_true, beq_iff_eq, bne_iff_ne, ne_eq,
    Bool.or_eq_true, ← Nat.dvd_iff_mod_eq_zero]
  by_cases hfour : 4 ∣ year <;> by_cases hhundred : 100 ∣ year <;>
    by_cases hfourHundred : 400 ∣ year <;> simp_all

theorem daysBeforeYear_succ {year : Nat} (h : 1 ≤ year) :
    daysBeforeYear (year + 1) = daysBeforeYear year + daysInYear year := by
  obtain ⟨n, rfl⟩ := Nat.exists_eq_add_of_le' h
  have hdays := daysInYear_eq (n + 1)
  have hle : n / 100 ≤ n * 365 := Nat.le_trans (Nat.div_le_self n 100) (by omega)
  have hone : (if 100 ∣ n + 1 then 1 else 0) ≤ 1 := by split <;> decide
  simp only [daysBeforeYear, Nat.add_sub_cancel, Nat.succ_div]
  omega

theorem monotone_daysBeforeYear : Monotone daysBeforeYear := by
  refine monotone_nat_of_le_succ fun year => ?_
  rcases Nat.eq_zero_or_pos year with rfl | hpos
  · exact Nat.le_refl _
  · rw [daysBeforeYear_succ hpos]
    exact Nat.le_add_right _ _

/-! ## Months -/

theorem daysBeforeMonth_succ {year month : Nat} (h : 1 ≤ month) :
    daysBeforeMonth year (month + 1) = daysBeforeMonth year month + daysInMonth year month := by
  obtain ⟨month, rfl⟩ := Nat.exists_eq_add_of_le' h
  rfl

theorem monotone_daysBeforeMonth (year : Nat) : Monotone (daysBeforeMonth year) := by
  refine monotone_nat_of_le_succ fun month => ?_
  rcases Nat.eq_zero_or_pos month with rfl | hpos
  · exact Nat.le_refl _
  · rw [daysBeforeMonth_succ hpos]
    exact Nat.le_add_right _ _

theorem daysBeforeMonth_last (year : Nat) : daysBeforeMonth year 13 = daysInYear year := by
  cases hleap : isLeap year <;> simp [daysBeforeMonth, daysInMonth, daysInYear, hleap]

/-! ## Dates -/

/-- The day of the year. -/
def dayOfYear (d : Date) : Nat := daysBeforeMonth d.year d.month + d.day

theorem dayOfYear_le (d : Date) : d.dayOfYear ≤ daysInYear d.year := by
  obtain ⟨-, -, hmonth, hmonth', -, hday⟩ := d.valid
  have hend := monotone_daysBeforeMonth d.year (Nat.succ_le_succ hmonth')
  rw [Nat.succ_eq_add_one, daysBeforeMonth_succ hmonth, daysBeforeMonth_last] at hend
  rw [dayOfYear]
  omega

theorem year_le_of_dayNumber_le {d e : Date} (h : d.dayNumber ≤ e.dayNumber) : d.year ≤ e.year := by
  refine Nat.le_of_not_lt fun hlt => ?_
  have hyear := e.valid.1
  have hday := e.dayOfYear_le
  have hpos : 1 ≤ d.day := d.valid.2.2.2.2.1
  have hmono : daysBeforeYear (e.year + 1) ≤ daysBeforeYear d.year :=
    monotone_daysBeforeYear (by omega)
  rw [daysBeforeYear_succ hyear] at hmono
  simp only [dayNumber, dayOfYear] at h hday
  omega

theorem month_le_of_dayOfYear_le {d e : Date} (hyear : d.year = e.year)
    (h : d.dayOfYear ≤ e.dayOfYear) : d.month ≤ e.month := by
  refine Nat.le_of_not_lt fun hlt => ?_
  obtain ⟨-, -, hmonth, -, -, hday⟩ := e.valid
  have hpos : 1 ≤ d.day := d.valid.2.2.2.2.1
  have hmono : daysBeforeMonth e.year (e.month + 1) ≤ daysBeforeMonth e.year d.month :=
    monotone_daysBeforeMonth e.year (by omega)
  rw [daysBeforeMonth_succ hmonth] at hmono
  simp only [dayOfYear, hyear] at h
  omega

/-- Different dates have different numbers. -/
theorem dayNumber_injective {d e : Date} (h : d.dayNumber = e.dayNumber) : d = e := by
  have hyear : d.year = e.year :=
    Nat.le_antisymm (year_le_of_dayNumber_le (Nat.le_of_eq h))
      (year_le_of_dayNumber_le (Nat.le_of_eq h.symm))
  have hday : d.dayOfYear = e.dayOfYear := by
    simp only [dayNumber, hyear] at h
    simp only [dayOfYear, hyear]
    omega
  have hmonth : d.month = e.month :=
    Nat.le_antisymm (month_le_of_dayOfYear_le hyear (Nat.le_of_eq hday))
      (month_le_of_dayOfYear_le hyear.symm (Nat.le_of_eq hday.symm))
  simp only [dayOfYear, hyear, hmonth, Nat.add_left_cancel_iff] at hday
  cases d
  cases e
  simp_all

end Date

/-! ## Times and timestamps without an offset -/

theorem Time.clockMicros_lt (t : Time) : t.clockMicros < microsPerDay := by
  obtain ⟨hhour, hminute, hsecond, hmicro⟩ := t.valid
  rw [clockMicros, clockSeconds, microsPerDay]
  omega

/-- Clocks without an offset that show the same are the same. -/
theorem Time.eq_of_clockMicros_eq {t u : Time} (ht : t.offset = none) (hu : u.offset = none)
    (h : t.clockMicros = u.clockMicros) : t = u := by
  obtain ⟨hhour, hminute, hsecond, hmicro⟩ := t.valid
  obtain ⟨hhour', hminute', hsecond', hmicro'⟩ := u.valid
  simp only [clockMicros, clockSeconds] at h
  have hfields : t.hour = u.hour ∧ t.minute = u.minute ∧ t.second = u.second ∧
      t.micro = u.micro := by
    omega
  cases t
  cases u
  simp_all

theorem Time.eq_of_compare? {t u : Time} (hu : u.offset = none) (h : t.compare? u = some .eq) :
    t = u := by
  unfold compare? at h
  split at h
  · rename_i hoffset
    have ht : t.offset = none := by simpa [hu] using hoffset
    simp only [orderKey, ht, hu, Option.some.injEq, Ordering.then_eq_eq, compare_eq_iff_eq]
      at h
    refine eq_of_clockMicros_eq ht hu ?_
    rw [clockMicros, clockMicros]
    omega
  · cases h

theorem Timestamp.eq_of_compare? {t u : Timestamp} (hu : u.time.offset = none)
    (h : t.compare? u = some .eq) : t = u := by
  unfold compare? at h
  split at h
  · rename_i hoffset
    have ht : t.time.offset = none := by simpa [hu] using hoffset
    have hclock := t.time.clockMicros_lt
    have hclock' := u.time.clockMicros_lt
    simp only [instant, ht, hu, Option.some.injEq, compare_eq_iff_eq, microsPerDay]
      at h hclock hclock'
    have hdate : t.date = u.date := Date.dayNumber_injective (by omega)
    have htime : t.time = u.time := Time.eq_of_clockMicros_eq ht hu (by omega)
    cases t
    cases u
    simp_all
  · cases h

end RecordMapper.Calendar
