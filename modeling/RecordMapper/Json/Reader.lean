import RecordMapper.Number.Reader
import RecordMapper.Text.Units
import RecordMapper.Value.Basic

/-! # Reading JSON

A JSON text as a value. Numbers without fraction and exponent are integers, the others doubles;
`NaN` and `Infinity` are numbers, too. Of two entries with one name the last one counts. -/

namespace RecordMapper.Json

open Number

/-- Why a text is not read: it is not JSON, or an integer has too many digits. -/
inductive ReadError where
  | malformed
  | tooLong (digits : Nat)
deriving DecidableEq, Repr

/-- The result of reading at the front of a text: a value and what follows it. -/
abbrev Read (α : Type) := Except ReadError (α × List Char)

/-- Whether the character may stand between tokens. -/
def isSpace (c : Char) : Bool := c == ' ' || c == '\t' || c == '\n' || c == '\r'

/-- Drops the space in front. -/
def skipSpace (cs : List Char) : List Char := cs.dropWhile isSpace

/-- The value of four hexadecimal digits in front. -/
def hexUnit? : List Char → Option (Nat × List Char)
  | a :: b :: c :: d :: cs => do
    let a ← Text.hexDigit? a
    let b ← Text.hexDigit? b
    let c ← Text.hexDigit? c
    let d ← Text.hexDigit? d
    some (((a * 16 + b) * 16 + c) * 16 + d, cs)
  | _ => none

/-- The character of a short escape. -/
def shortEscape? (c : Char) : Option Char :=
  if c = '"' ∨ c = '\\' ∨ c = '/' then some c
  else if c = 'b' then some '\x08'
  else if c = 'f' then some '\x0c'
  else if c = 'n' then some '\n'
  else if c = 'r' then some '\r'
  else if c = 't' then some '\t'
  else none

/-- Reads what follows a backslash and a `u`: one unit, or two that make a pair. -/
def readUnits? (cs : List Char) : Option (Char × List Char) := do
  let (n, rest) ← hexUnit? cs
  if Text.isHighUnit n then
    match rest with
    | '\\' :: 'u' :: more =>
      match hexUnit? more with
      | some (m, rest') =>
        if Text.isLowUnit m then some (Text.pairChar n m, rest')
        else some (Text.unitChar n, rest)
      | none => none
    | _ => some (Text.unitChar n, rest)
  else some (Text.unitChar n, rest)

/-- Reads the characters of a text up to the closing quote; `fuel` bounds their number. -/
def readString (fuel : Nat) (acc : List Char) (cs : List Char) : Read String :=
  match fuel, cs with
  | 0, _ => .error .malformed
  | _, [] => .error .malformed
  | _ + 1, '"' :: rest => .ok (String.ofList acc.reverse, rest)
  | fuel + 1, '\\' :: 'u' :: rest =>
    match readUnits? rest with
    | some (c, rest) => readString fuel (c :: acc) rest
    | none => .error .malformed
  | fuel + 1, '\\' :: e :: rest =>
    match shortEscape? e with
    | some c => readString fuel (c :: acc) rest
    | none => .error .malformed
  | fuel + 1, c :: rest =>
    if c.toNat < 0x20 ∨ c = '\\' then .error .malformed else readString fuel (c :: acc) rest

/-- Splits off the ASCII digits in front. -/
def spanDigits (cs : List Char) : List Char × List Char :=
  (cs.takeWhile Char.isDigit, cs.dropWhile Char.isDigit)

/-- The whole part of a number: a zero, or digits that do not begin with one. -/
def wholePart? (cs : List Char) : Option (List Char × List Char) :=
  match cs with
  | '0' :: rest => some (['0'], rest)
  | _ =>
    match spanDigits cs with
    | ([], _) => none
    | p => some p

/-- The fraction of a number: the digits after a point, if any. -/
def fractionPart (cs : List Char) : List Char × List Char :=
  match cs with
  | '.' :: rest =>
    match spanDigits rest with
    | ([], _) => ([], cs)
    | p => p
  | _ => ([], cs)

/-- The exponent of a number, if one is written. -/
def exponentPart (cs : List Char) : Option Int × List Char :=
  match cs with
  | e :: rest =>
    if e = 'e' ∨ e = 'E' then
      let (negative, digits) := splitSign rest
      match spanDigits digits with
      | ([], _) => (none, cs)
      | (ds, after) => (some (withSign negative (Text.digitsValue 0 ds)), after)
    else (none, cs)
  | [] => (none, cs)

/-- Reads a number without its sign. -/
def readUnsigned (negative : Bool) (cs : List Char) : Read Value :=
  match wholePart? cs with
  | none => .error .malformed
  | some (whole, rest) =>
    let (fraction, rest) := fractionPart rest
    let (exponent, rest) := exponentPart rest
    if fraction.isEmpty ∧ exponent.isNone then
      if whole.length > longestNumeral then .error (.tooLong whole.length)
      else .ok (.int (withSign negative (Text.digitsValue 0 whole)), rest)
    else
      let digits := Text.digitsValue 0 (whole ++ fraction)
      .ok (.float (.ofDecimal negative digits (exponent.getD 0 - fraction.length)), rest)

/-- The rest of a text after a word in front of it. -/
def afterWord? (word : String) (cs : List Char) : Option (List Char) :=
  if word.toList.isPrefixOf cs then some (cs.drop word.length) else none

/-- Reads a word that stands for a value, or a number. -/
def readPlain (cs : List Char) : Read Value :=
  match afterWord? "null" cs with
  | some r => .ok (.null, r)
  | none =>
  match afterWord? "true" cs with
  | some r => .ok (.bool true, r)
  | none =>
  match afterWord? "false" cs with
  | some r => .ok (.bool false, r)
  | none =>
  match afterWord? "NaN" cs with
  | some r => .ok (.float .nan, r)
  | none =>
  match afterWord? "Infinity" cs with
  | some r => .ok (.float (.infinity false), r)
  | none =>
  match afterWord? "-Infinity" cs with
  | some r => .ok (.float (.infinity true), r)
  | none =>
  match cs with
  | '-' :: r => readUnsigned true r
  | r => readUnsigned false r

mutual

/-- Reads a value in front. -/
def readValue (fuel : Nat) (cs : List Char) : Except ReadError (Value × List Char) :=
  match fuel with
  | 0 => .error .malformed
  | fuel + 1 =>
    match cs with
    | '"' :: rest => do
      let (s, rest) ← readString rest.length [] rest
      return (.string s, rest)
    | '[' :: rest =>
      match skipSpace rest with
      | ']' :: rest => .ok (.list [], rest)
      | rest => do
        let (xs, rest) ← readItems fuel rest
        return (.list xs, rest)
    | '\x7b' :: rest =>
      match skipSpace rest with
      | '\x7d' :: rest => .ok (.map [], rest)
      | rest => do
        let (es, rest) ← readEntries fuel [] rest
        return (.map es, rest)
    | cs => readPlain cs

/-- Reads the items of a list up to its closing bracket. -/
def readItems (fuel : Nat) (cs : List Char) : Except ReadError (List Value × List Char) :=
  match fuel with
  | 0 => .error .malformed
  | fuel + 1 => do
    let (x, rest) ← readValue fuel cs
    match skipSpace rest with
    | ']' :: rest => return ([x], rest)
    | ',' :: rest => do
      let (xs, rest) ← readItems fuel (skipSpace rest)
      return (x :: xs, rest)
    | _ => .error .malformed

/-- Reads the entries of a map up to its closing brace. -/
def readEntries (fuel : Nat) (acc : Row Value) (cs : List Char) :
    Except ReadError (Row Value × List Char) :=
  match fuel with
  | 0 => .error .malformed
  | fuel + 1 =>
    match cs with
    | '"' :: rest => do
      let (k, rest) ← readString rest.length [] rest
      match skipSpace rest with
      | ':' :: rest => do
        let (v, rest) ← readValue fuel (skipSpace rest)
        let acc := acc.insert k v
        match skipSpace rest with
        | '\x7d' :: rest => return (acc, rest)
        | ',' :: rest => readEntries fuel acc (skipSpace rest)
        | _ => .error .malformed
      | _ => .error .malformed
    | _ => .error .malformed

end

/-- Reads a JSON text, however deep lists and maps are nested in it; an interpreter that calls
itself for each of them gives up at the depth to which it may do so. -/
def readChars (cs : List Char) : Except ReadError Value := do
  let cs := skipSpace cs
  let (v, rest) ← readValue (cs.length + 1) cs
  if (skipSpace rest).isEmpty then return v else .error .malformed

end RecordMapper.Json
