import RecordMapper.Calendar.Time

/-! # Reading dates and times

Dates, times and timestamps in the basic and the extended forms of ISO 8601: calendar dates, week
dates, fields with or without separators, fractions of the last second, offsets. -/

namespace RecordMapper.Calendar

/-- The value of an ASCII digit. -/
def asciiDigit? (c : Char) : Option Nat := if c.isDigit then some (c.toNat - 48) else none

/-- Reads exactly `count` digits. -/
def takeDigits : Nat → Nat → List Char → Option (Nat × List Char)
  | 0, acc, cs => some (acc, cs)
  | _ + 1, _, [] => none
  | count + 1, acc, c :: cs =>
    match asciiDigit? c with
    | some d => takeDigits count (acc * 10 + d) cs
    | none => none

/-- Whether nothing follows; a NUL ends a text, too. -/
def atEnd : List Char → Bool
  | [] => true
  | c :: _ => c == '\x00'

namespace Date

/-- Reads a week and, if anything follows, a weekday, after the letter `W`. -/
def readWeek (year : Nat) (dashed : Bool) (cs : List Char) : Option Date := do
  let (week, rest) ← takeDigits 2 0 cs
  match rest with
  | [] => ofWeek? year week 1
  | c :: r =>
    if dashed then
      if c = '-' then
        let (weekday, _) ← takeDigits 1 0 r
        ofWeek? year week weekday
      else none
    else
      let (weekday, _) ← takeDigits 1 0 (c :: r)
      ofWeek? year week weekday

/-- Reads a month and a day. -/
def readMonthDay (year : Nat) (dashed : Bool) (cs : List Char) : Option Date := do
  let (month, rest) ← takeDigits 2 0 cs
  let rest ←
    if dashed then
      match rest with
      | '-' :: r => some r
      | _ => none
    else some rest
  let (day, _) ← takeDigits 2 0 rest
  of? year month day

/-- Reads a date at the front of a text. -/
def readFront (cs : List Char) : Option Date := do
  let (year, rest) ← takeDigits 4 0 cs
  let (dashed, rest) :=
    match rest with
    | '-' :: r => (true, r)
    | r => (false, r)
  match rest with
  | 'W' :: r => readWeek year dashed r
  | r => readMonthDay year dashed r

/-- Reads a date; the text has seven, eight or ten bytes. -/
def ofChars? (cs : List Char) : Option Date :=
  let size := (String.ofList cs).utf8ByteSize
  if size = 7 ∨ size = 8 ∨ size = 10 then readFront cs else none

end Date

/-- The fields of a clock as they are read, within two digits each. -/
structure ClockFields where
  hour : Nat
  minute : Nat
  second : Nat
  micro : Nat

namespace ClockFields

/-- The fields with the one at the given place set. -/
def set (f : ClockFields) (place value : Nat) : ClockFields :=
  match place with
  | 0 => { f with hour := value }
  | 1 => { f with minute := value }
  | _ => { f with second := value }

/-- Reads a fraction of a second, of which six digits count; says whether nothing is left over. -/
def readFraction (f : ClockFields) (cs : List Char) : Option (ClockFields × Bool) := do
  let count := min 6 cs.length
  let (n, rest) ← takeDigits count 0 cs
  return ({ f with micro := n * Nat.pow 10 (6 - count) }, atEnd (rest.dropWhile Char.isDigit))

/-- Reads the fields from the given place on, `todo` of them at most. Fields are separated by colons
throughout or not at all; says whether nothing is left over. -/
def readFields (f : ClockFields) (place : Nat) (separated : Bool) :
    Nat → List Char → Option (ClockFields × Bool)
  | 0, cs => readFraction f cs
  | todo + 1, cs => do
    let (n, rest) ← takeDigits 2 0 cs
    let f := f.set place n
    match rest with
    | [] => some (f, true)
    | [c] => if c.toNat < 0x80 then some (f, atEnd [c]) else none
    | c :: r =>
      let separated := if place = 0 then c == ':' else separated
      if separated && c == ':' then readFields f (place + 1) separated todo r
      else if c = '.' ∨ c = ',' then readFraction f r
      else if separated then none
      else readFields f (place + 1) separated todo (c :: r)

/-- Reads hours, then minutes, then seconds, then a fraction. -/
def read (cs : List Char) : Option (ClockFields × Bool) := readFields ⟨0, 0, 0, 0⟩ 0 true 3 cs

/-- The whole seconds that the fields amount to. -/
def seconds (f : ClockFields) : Nat := f.hour * 3600 + f.minute * 60 + f.second

end ClockFields

/-- Whether the character begins an offset. -/
def beginsOffset (c : Char) : Bool := c == '+' || c == '-' || c == 'Z'

/-- Reads an offset that ends the text. One of less than a second is universal time. -/
def Offset.ofChars? : List Char → Option Offset
  | 'Z' :: rest => if atEnd rest then some utc else none
  | sign :: rest => do
    let (f, complete) ← ClockFields.read rest
    if complete then
      let size : Int := if f.seconds = 0 then 0 else (f.seconds * 1000000 + f.micro : Nat)
      of? (if sign = '-' then -size else size)
    else none
  | [] => none

namespace Time

/-- Reads a time of day with an optional offset. -/
def readClock (cs : List Char) : Option Time := do
  let (f, complete) ← ClockFields.read (cs.takeWhile (fun c => !beginsOffset c))
  match cs.dropWhile (fun c => !beginsOffset c) with
  | [] => if complete then of? f.hour f.minute f.second f.micro none else none
  | rest => do
    let o ← Offset.ofChars? rest
    of? f.hour f.minute f.second f.micro (some o)

/-- Reads a time of day, with or without a `T` in front. -/
def ofChars? : List Char → Option Time
  | 'T' :: cs => readClock cs
  | cs => readClock cs

end Time

namespace Timestamp

/-- Whether the character at the given place is a digit. -/
def digitAt (cs : List Char) (place : Nat) : Bool :=
  match cs[place]? with
  | some c => c.isDigit
  | none => false

/-- The length of the date in a text with a week date without dashes: the digits after the week
come in pairs unless a weekday stands before them. -/
def compactWeekLength (cs : List Char) : Nat :=
  let stop := 7 + ((cs.drop 7).takeWhile Char.isDigit).length
  if stop < 9 then stop
  else if stop % 2 = 0 then 7
  else 8

/-- The length of the date at the front of a text. -/
def dateLength (cs : List Char) : Nat :=
  if cs.length = 7 then 7
  else if cs[4]? = some '-' then
    if cs[5]? = some 'W' then
      if cs[8]? = some '-' then
        if digitAt cs 10 then 8 else 10
      else 8
    else 10
  else if cs[4]? = some 'W' then compactWeekLength cs
  else 8

/-- Reads a date, any one character, and a time; the time may be missing with its separator. -/
def ofChars? (cs : List Char) : Option Timestamp := do
  let n := dateLength cs
  let date ← Date.readFront (cs.take n)
  match cs.drop n with
  | [] => some ⟨date, Time.midnight⟩
  | _ :: rest => do
    let time ← Time.readClock rest
    some ⟨date, time⟩

end Timestamp

end RecordMapper.Calendar
