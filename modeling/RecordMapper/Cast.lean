import RecordMapper.Calendar.IsoText
import RecordMapper.Json.Encoding
import RecordMapper.Json.Writer
import RecordMapper.Kind
import RecordMapper.Text.Case
import RecordMapper.Value.Equality
import RecordMapper.Value.Text

/-! # Casting, loading and dumping

Casting turns outside input into a value of a field's kind. Dumping turns a value into what a store
of texts and numbers keeps, loading reads it back; loading accepts everything that casting does. -/

namespace RecordMapper

open Calendar Number

/-- Why a value is not cast or loaded: it is none of the kind, a number is too large for what is to
be made of it, a numeral has too many digits to be read or an integer too many to be written, a NaN
may not be converted, a map's text is no JSON, or its bytes are no text. A number is `immense` when
its digits would use up the memory. -/
inductive CastError where
  | mismatch
  | overflow
  | longNumeral (digits : Nat)
  | longInteger
  | immense
  | signalingNan
  | malformedJson
  | malformedBytes
deriving DecidableEq, Repr

namespace CastError

/-- The text of the error, where it is more than its kind. -/
def message : CastError → String
  | .longNumeral n => NumeralError.tooLongMessage n
  | .longInteger => longIntegerMessage
  | .signalingNan => "cannot convert signaling NaN to float"
  | _ => ""

end CastError

/-- The outcome of casting or loading. -/
abbrev Casted := Except CastError Value

namespace Cast

/-- A value, or a mismatch. -/
def orMismatch (v : Option Value) : Casted :=
  match v with
  | some v => .ok v
  | none => .error .mismatch

/-- Whether the text is a sign and decimal digits of any script. -/
def isIntegerText (cs : List Char) : Bool :=
  let ds := (splitSign cs).2
  !ds.isEmpty && ds.all Text.isDigit

/-- An integer from an integer or its text. -/
def integer : Value → Casted
  | .int i => .ok (.int i)
  | .string s =>
    let cs := Text.trim s.toList
    if isIntegerText cs then
      match readInteger cs with
      | .ok i => .ok (.int i)
      | .error (.tooLong n) => .error (.longNumeral n)
      | .error .malformed => .error .mismatch
    else .error .mismatch
  | _ => .error .mismatch

/-- The double nearest to an integer. -/
def floatOfInt (i : Int) : Casted :=
  match Binary64.ofInt i with
  | .infinity _ => .error .overflow
  | x => .ok (.float x)

/-- A double from a number or its text. -/
def float : Value → Casted
  | .int i => floatOfInt i
  | .float x => .ok (.float x)
  | .decimal (.nan _ true _) => .error .signalingNan
  | .decimal d => .ok (.float d.toBinary64)
  | .string s => orMismatch ((readFloat? s.toList).map .float)
  | _ => .error .mismatch

/-- A finite decimal, or a mismatch. -/
def finiteDecimal (d : Option Decimal) : Casted :=
  match d with
  | some d => if d.isFinite then .ok (.decimal d) else .error .mismatch
  | none => .error .mismatch

/-- A finite decimal from a number or its text. An integer goes through its numeral, a double
through its shortest text. -/
def decimal : Value → Casted
  | .decimal d => finiteDecimal (some d)
  | .int i =>
    if Text.digitCount i.natAbs > longestNumeral then .error .longInteger
    else .ok (.decimal (.ofInt i))
  | .float x => finiteDecimal (Decimal.ofChars? x.chars)
  | .string s => finiteDecimal (Decimal.ofChars? s.toList)
  | _ => .error .mismatch

/-- A truth value from one or its text. -/
def boolean : Value → Casted
  | .bool b => .ok (.bool b)
  | .string s =>
    let word := Text.lower (Text.strip s)
    if word = "true" ∨ word = "1" then .ok (.bool true)
    else if word = "false" ∨ word = "0" then .ok (.bool false)
    else .error .mismatch
  | _ => .error .mismatch

/-- A text. -/
def string : Value → Casted
  | .string s => .ok (.string s)
  | _ => .error .mismatch

/-- The most digits that an integer made of a decimal may have. The number is no rule of casting: it
stands for the memory that is used up by then. -/
def mostWholeDigits : Nat := 1000000000

/-- The whole number that a part of a date is, towards zero. Of the numbers of more than a thousand
digits only their size is kept, as none of them is a part of a date. -/
def datePart : Value → Except CastError Int
  | .bool b => .ok (if b then 1 else 0)
  | .int i => .ok i
  | .float (.infinity _) => .error .overflow
  | .float x =>
    match x.truncate? with
    | some i => .ok i
    | none => .error .mismatch
  | .decimal (.infinity _) => .error .overflow
  | .decimal (.finite s c e) =>
    if Decimal.wholeDigits c e > mostWholeDigits then .error .immense
    else .ok (Decimal.wholePart s c e)
  | .string s => numeral s.toList
  | .binary bs => numeral (bs.map fun b => if b < 0x80 then Char.ofNat b.toNat else '\ufffd')
  | .uuid u => .ok u.bits.toNat
  | _ => .error .mismatch
where
  /-- The integer of a numeral. -/
  numeral (cs : List Char) : Except CastError Int :=
    match readInteger cs with
    | .ok i => .ok i
    | .error _ => .error .mismatch

/-- The value of an entry, or a mismatch. -/
def entry (es : Row Value) (name : String) : Casted := orMismatch (es.find? name)

/-- Whether an integer fits 32 bits. -/
def fitsWord (i : Int) : Bool := -2147483648 ≤ i && i ≤ 2147483647

/-- A date from its parts. -/
def dateOfParts (es : Row Value) : Casted := do
  let year ← datePart (← entry es "year")
  let month ← datePart (← entry es "month")
  let day ← datePart (← entry es "day")
  if fitsWord year && fitsWord month && fitsWord day then
    if year < 0 ∨ month < 0 ∨ day < 0 then .error .mismatch
    else orMismatch ((Date.of? year.toNat month.toNat day.toNat).map .date)
  else .error .overflow

/-- A date from one, its text or its parts. -/
def date : Value → Casted
  | .date d => .ok (.date d)
  | .string s => orMismatch ((Date.ofChars? (Text.trim s.toList)).map .date)
  | .map es => dateOfParts es
  | _ => .error .mismatch

/-- A time of day from one or its text. -/
def time : Value → Casted
  | .time t => .ok (.time t)
  | .string s => orMismatch ((Time.ofChars? (Text.trim s.toList)).map .time)
  | _ => .error .mismatch

/-- The text with a final `Z` written as an offset. -/
def spellOutZulu (cs : List Char) : List Char :=
  if cs.getLast? = some 'Z' then cs.dropLast ++ ['+', '0', '0', ':', '0', '0'] else cs

/-- A timestamp from one or its text. -/
def timestamp : Value → Casted
  | .timestamp t => .ok (.timestamp t)
  | .string s =>
    orMismatch ((Timestamp.ofChars? (spellOutZulu (Text.trim s.toList))).map .timestamp)
  | _ => .error .mismatch

/-- Bytes. -/
def binary : Value → Casted
  | .binary bs => .ok (.binary bs)
  | _ => .error .mismatch

/-- An identifier from one or its text. -/
def uuid : Value → Casted
  | .uuid u => .ok (.uuid u)
  | .string s => orMismatch ((Uuid.ofChars? (Text.trim s.toList)).map .uuid)
  | _ => .error .mismatch

/-- A map. -/
def map : Value → Casted
  | .map es => .ok (.map es)
  | _ => .error .mismatch

end Cast

namespace Kind

/-- Casts a value other than `null`. -/
def castPresent : Kind → Value → Casted
  | .id => Cast.integer
  | .string => Cast.string
  | .integer => Cast.integer
  | .float => Cast.float
  | .decimal => Cast.decimal
  | .boolean => Cast.boolean
  | .date => Cast.date
  | .time => Cast.time
  | .timestamp => Cast.timestamp
  | .binary => Cast.binary
  | .uuid => Cast.uuid
  | .map => Cast.map

/-- Casts a value to a kind; `null` stays as it is. -/
def cast (k : Kind) (v : Value) : Casted :=
  if v.isNull then .ok .null else k.castPresent v

/-- Reads a JSON text. -/
def loadJson (cs : List Char) : Casted :=
  match Json.readChars cs with
  | .ok v => .ok v
  | .error .malformed => .error .malformedJson
  | .error (.tooLong n) => .error (.longNumeral n)

/-- Reads back what a store keeps for a value of a kind. -/
def load : Kind → Value → Casted
  | .boolean, .int i => .ok (.bool (i ≠ 0))
  | .float, .bool b => Cast.floatOfInt (if b then 1 else 0)
  | .map, .string s => loadJson s.toList
  | .map, .binary bs =>
    match Json.decode? bs with
    | some cs => loadJson cs
    | none => .error .malformedBytes
  | .uuid, .binary bs =>
    if bs.length = 16 then .ok (.uuid (Uuid.ofBytes bs)) else .error .mismatch
  | k, v => k.cast v

end Kind

namespace Value

/-- What a store of texts and numbers keeps for a value, or why it cannot keep a map. -/
def dump : Value → Except Json.WriteError Value
  | .bool b => .ok (.int (if b then 1 else 0))
  | .timestamp t => .ok (.string t.text)
  | .date d => .ok (.string d.text)
  | .time t => .ok (.string t.text)
  | .decimal d => .ok (.string d.text)
  | .uuid u => .ok (.string u.text)
  | .map es => (Json.write (.map es)).map fun cs => .string (String.ofList cs)
  | v => .ok v

/-- What a store of texts and numbers keeps for a value, if it can keep it. -/
def dump? (v : Value) : Option Value := v.dump.toOption

end Value

end RecordMapper
