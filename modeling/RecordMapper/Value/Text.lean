import RecordMapper.Text.Quoted
import RecordMapper.Value.Basic

/-! # The text of values

Two texts of a value: the plain one, for messages, and the exact one, which tells values of
different kinds apart. They differ outside collections only; items are always written exactly. -/

namespace RecordMapper.Value

open Calendar Number

/-- Joins texts with a comma and a space. -/
def commaSeparated : List (List Char) → List Char
  | [] => []
  | [x] => x
  | x :: xs => x ++ ',' :: ' ' :: commaSeparated xs

/-- Arguments between brackets after a name. -/
def call (name : String) (args : List (List Char)) : List Char :=
  name.toList ++ '(' :: commaSeparated args ++ [')']

/-- The fields of a clock: seconds only when they or microseconds are there. -/
def clockArgs (t : Time) : List (List Char) :=
  let hm := [Text.numeral t.hour, Text.numeral t.minute]
  if t.micro ≠ 0 then hm ++ [Text.numeral t.second, Text.numeral t.micro]
  else if t.second ≠ 0 then hm ++ [Text.numeral t.second]
  else hm

/-- One part of a span of time, if it is not zero. -/
def spanPart (name : String) (n : Int) : List (List Char) :=
  if n = 0 then [] else [name.toList ++ Text.intNumeral n]

/-- A span of microseconds in days, seconds and microseconds, of which only the days are
negative. -/
def spanText (micros : Int) : List Char :=
  let parts := spanPart "days=" (Int.fdiv micros microsPerDay)
    ++ spanPart "seconds=" (Int.fdiv (Int.fmod micros microsPerDay) 1000000)
    ++ spanPart "microseconds=" (Int.fmod micros 1000000)
  call "datetime.timedelta" (if parts.isEmpty then [['0']] else parts)

/-- The offset as the last argument. -/
def offsetArgs : Option Offset → List (List Char)
  | none => []
  | some o =>
    ["tzinfo=".toList ++
      (if o.micros = 0 then "datetime.timezone.utc".toList
       else call "datetime.timezone" [spanText o.micros])]

/-- The exact text of a date, of what follows its numbers. -/
def dateArgs (d : Date) : List (List Char) :=
  [Text.numeral d.year, Text.numeral d.month, Text.numeral d.day]

mutual

/-- The exact text of a value. -/
def exactChars : Value → List Char
  | .null => "None".toList
  | .bool b => (if b then "True" else "False").toList
  | .int i => Text.intNumeral i
  | .float x => x.chars
  | .decimal d => call "Decimal" ['\'' :: d.chars ++ ['\'']]
  | .string s => Text.quoted s.toList
  | .date d => call "datetime.date" (dateArgs d)
  | .time t => call "datetime.time" (clockArgs t ++ offsetArgs t.offset)
  | .timestamp t =>
    call "datetime.datetime" (dateArgs t.date ++ clockArgs t.time ++ offsetArgs t.time.offset)
  | .binary bs => Text.quotedBytes bs
  | .uuid u => call "UUID" ['\'' :: u.chars ++ ['\'']]
  | .list xs => '[' :: commaSeparated (exactItems xs) ++ [']']
  | .tuple [x] => '(' :: exactChars x ++ [',', ')']
  | .tuple xs => '(' :: commaSeparated (exactItems xs) ++ [')']
  | .map es => '\x7b' :: commaSeparated (exactEntries es) ++ ['\x7d']

/-- The exact texts of the items of a list. -/
def exactItems : List Value → List (List Char)
  | [] => []
  | x :: xs => exactChars x :: exactItems xs

/-- The exact texts of the entries of a map. -/
def exactEntries : List (String × Value) → List (List Char)
  | [] => []
  | (k, v) :: es => (Text.quoted k.toList ++ ':' :: ' ' :: exactChars v) :: exactEntries es

end

/-- The exact text of a value. -/
def exactText (v : Value) : String := String.ofList v.exactChars

/-- The plain text of a value. -/
def plainText : Value → String
  | .string s => s
  | .decimal d => d.text
  | .date d => d.text
  | .time t => t.text
  | .timestamp t => String.ofList (t.date.chars ++ ' ' :: t.time.chars)
  | .uuid u => u.text
  | v => v.exactText

end RecordMapper.Value
