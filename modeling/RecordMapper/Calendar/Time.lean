import RecordMapper.Calendar.Date

/-! # Times of day and timestamps

A time of day may carry its distance from universal time. Two times with that distance are
compared as instants, two without it as they are read on a clock. -/

namespace RecordMapper.Calendar

/-- The microseconds of a day. -/
def microsPerDay : Nat := 86400000000

/-- The distance of a clock from universal time in microseconds, less than a day and positive to the
east. -/
structure Offset where
  micros : Int
  valid : micros.natAbs < microsPerDay
deriving DecidableEq, Repr

namespace Offset

/-- The offset of so many microseconds, if that is less than a day. -/
def of? (micros : Int) : Option Offset :=
  if h : micros.natAbs < microsPerDay then some ⟨micros, h⟩ else none

/-- Universal time. -/
def utc : Offset := ⟨0, by decide⟩

/-- Two digits after a colon. -/
def colonTwo (n : Nat) : List Char := ':' :: Text.padded 2 n

/-- The offset as `+HH:MM`, with seconds and microseconds when there are any. -/
def chars (o : Offset) : List Char :=
  let n := o.micros.natAbs
  let seconds := n / 1000000
  let micros := n % 1000000
  (if o.micros < 0 then '-' else '+') :: Text.padded 2 (seconds / 3600)
    ++ colonTwo (seconds / 60 % 60)
    ++ (if seconds % 60 = 0 ∧ micros = 0 then [] else colonTwo (seconds % 60))
    ++ (if micros = 0 then [] else '.' :: Text.padded 6 micros)

end Offset

/-- Hour, minute, second and microsecond are a time of day. -/
def IsTime (hour minute second micro : Nat) : Prop :=
  hour < 24 ∧ minute < 60 ∧ second < 60 ∧ micro < 1000000

instance (hour minute second micro : Nat) : Decidable (IsTime hour minute second micro) := by
  unfold IsTime; infer_instance

/-- A time of day, with its distance from universal time where that is known. -/
structure Time where
  hour : Nat
  minute : Nat
  second : Nat
  micro : Nat
  valid : IsTime hour minute second micro
  offset : Option Offset
deriving DecidableEq, Repr

namespace Time

/-- The time of day with the given parts, if they are one. -/
def of? (hour minute second micro : Nat) (offset : Option Offset) : Option Time :=
  if h : IsTime hour minute second micro then some ⟨hour, minute, second, micro, h, offset⟩
  else none

/-- Midnight on an unplaced clock. -/
def midnight : Time := ⟨0, 0, 0, 0, by decide, none⟩

/-- The seconds since midnight as the clock shows them. -/
def clockSeconds (t : Time) : Nat := t.hour * 3600 + t.minute * 60 + t.second

/-- The microseconds since midnight as the clock shows them. -/
def clockMicros (t : Time) : Nat := t.clockSeconds * 1000000 + t.micro

/-- The time as `HH:MM:SS`, with microseconds when there are any, and the offset. -/
def chars (t : Time) : List Char :=
  Text.padded 2 t.hour ++ Offset.colonTwo t.minute ++ Offset.colonTwo t.second
    ++ (if t.micro = 0 then [] else '.' :: Text.padded 6 t.micro)
    ++ (match t.offset with
        | none => []
        | some o => o.chars)

/-- The time as `HH:MM:SS`, with microseconds when there are any, and the offset. -/
def text (t : Time) : String := String.ofList t.chars

/-- What two times are ordered by, each with the other's offset in view: the clock when the offsets
agree; otherwise whole seconds of universal time, then the microseconds of the clock. -/
def orderKey (t : Time) (sameOffset : Bool) : Int × Nat :=
  match t.offset with
  | some o =>
    if sameOffset then (t.clockSeconds, t.micro)
    else (t.clockSeconds - Int.fdiv o.micros 1000000, t.micro)
  | none => (t.clockSeconds, t.micro)

/-- The microseconds since midnight in universal time where the offset is known, on the clock where
it is not. -/
def instant (t : Time) : Int := t.clockMicros - (t.offset.map Offset.micros).getD 0

/-- Compares two times; one with an offset is comparable with none without. -/
def compare? (t u : Time) : Option Ordering :=
  if t.offset.isSome = u.offset.isSome then
    let same : Bool := t.offset = u.offset
    let a := t.orderKey same
    let b := u.orderKey same
    some ((compare a.1 b.1).then (compare a.2 b.2))
  else none

end Time

/-- A date with a time of day. -/
structure Timestamp where
  date : Date
  time : Time
deriving DecidableEq, Repr

namespace Timestamp

/-- Date and time with `T` between them. -/
def chars (t : Timestamp) : List Char := t.date.chars ++ 'T' :: t.time.chars

/-- Date and time with `T` between them. -/
def text (t : Timestamp) : String := String.ofList t.chars

/-- The microseconds since the day 0, in universal time where the offset is known. -/
def instant (t : Timestamp) : Int :=
  (t.date.dayNumber * microsPerDay + t.time.clockMicros : Nat)
    - (match t.time.offset with
       | some o => o.micros
       | none => 0)

/-- Compares two timestamps; one with an offset is comparable with none without. -/
def compare? (t u : Timestamp) : Option Ordering :=
  if t.time.offset.isSome = u.time.offset.isSome then some (compare t.instant u.instant)
  else none

end Timestamp

end RecordMapper.Calendar
