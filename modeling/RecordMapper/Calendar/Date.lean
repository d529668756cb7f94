import RecordMapper.Text.Numeral

/-! # Calendar dates

Dates of the proleptic Gregorian calendar in the years 1 to 9999, numbered by the days since the
last day of the year before the first. -/

namespace RecordMapper.Calendar

/-- Whether the year has a 29th of February. -/
def isLeap (year : Nat) : Bool := year % 4 == 0 && (year % 100 != 0 || year % 400 == 0)

/-- The number of days of a month. -/
def daysInMonth (year month : Nat) : Nat :=
  if month = 2 then (if isLeap year then 29 else 28)
  else if month = 4 ∨ month = 6 ∨ month = 9 ∨ month = 11 then 30
  else 31

/-- Year, month and day are a date of the calendar. -/
def IsDate (year month day : Nat) : Prop :=
  1 ≤ year ∧ year ≤ 9999 ∧ 1 ≤ month ∧ month ≤ 12 ∧ 1 ≤ day ∧ day ≤ daysInMonth year month

instance (year month day : Nat) : Decidable (IsDate year month day) := by
  unfold IsDate; infer_instance

/-- A date of the calendar, from the year 1 to the year 9999. -/
structure Date where
  year : Nat
  month : Nat
  day : Nat
  valid : IsDate year month day
deriving DecidableEq, Repr

instance : Inhabited Date := ⟨⟨1, 1, 1, by decide⟩⟩

namespace Date

/-- The date with the given parts, if they are one. -/
def of? (year month day : Nat) : Option Date :=
  if h : IsDate year month day then some ⟨year, month, day, h⟩ else none

/-- The days of all years before the given one. -/
def daysBeforeYear (year : Nat) : Nat :=
  let y := year - 1
  y * 365 + y / 4 - y / 100 + y / 400

/-- The days of the year's months before the given one. -/
def daysBeforeMonth (year : Nat) : Nat → Nat
  | 0 => 0
  | 1 => 0
  | month + 1 => daysBeforeMonth year month + daysInMonth year month

/-- The number of the day, 1 for the first day of the year 1. -/
def dayNumber (d : Date) : Nat := daysBeforeYear d.year + daysBeforeMonth d.year d.month + d.day

/-- The month and the day of the day `n`, counted from 1, of the rest of a year from `month`. -/
def monthAndDay (year month : Nat) : Nat → Nat → Nat × Nat
  | 0, n => (month, n)
  | months + 1, n =>
    if n ≤ daysInMonth year month then (month, n)
    else monthAndDay year (month + 1) months (n - daysInMonth year month)

/-- The date `n` days after the last day before the given year, for `n` within two years. -/
def ofYearAndDay (year n : Nat) : Option Date :=
  let length := if isLeap year then 366 else 365
  if n ≤ length then
    let (m, d) := monthAndDay year 1 11 n
    of? year m d
  else
    let (m, d) := monthAndDay (year + 1) 1 11 (n - length)
    of? (year + 1) m d

/-- The day of the week of the first of January, 0 for Monday. -/
def firstWeekday (year : Nat) : Nat := daysBeforeYear year % 7

/-- Whether the year has 53 weeks: it begins on a Thursday, or on a Wednesday when it is leap. -/
def hasWeek53 (year : Nat) : Bool :=
  firstWeekday year == 3 || (isLeap year && firstWeekday year == 2)

/-- The date of a weekday (1 for Monday) of a numbered week. Week 1 holds the first Thursday. -/
def ofWeek? (year week weekday : Nat) : Option Date :=
  if year < 1 ∨ year > 9999 ∨ week < 1 ∨ week > 53 ∨ (week = 53 ∧ hasWeek53 year = false)
      ∨ weekday < 1 ∨ weekday > 7 then none
  else
    let first := firstWeekday year
    -- the day of the year, counted so that 0 is the last day of the year before
    let n : Int := (7 * (week - 1) + weekday : Nat) - (first : Int)
      + (if first > 3 then 7 else 0)
    if n ≥ 1 then ofYearAndDay year n.toNat
    else
      let lastYear := year - 1
      let length : Int := if isLeap lastYear then 366 else 365
      ofYearAndDay lastYear (n + length).toNat

/-- The date as `YYYY-MM-DD`. -/
def chars (d : Date) : List Char :=
  Text.padded 4 d.year ++ '-' :: Text.padded 2 d.month ++ '-' :: Text.padded 2 d.day

/-- The date as `YYYY-MM-DD`. -/
def text (d : Date) : String := String.ofList d.chars

end Date

end RecordMapper.Calendar
