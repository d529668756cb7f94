import RecordMapper.Number.Reader
import RecordMapper.Text.Numeral
import RecordMapper.Value.Basic

/-! # Writing JSON

A value as JSON text in ASCII: entries sorted by name, a space after each comma and colon. Values
that JSON has no form for are refused, and so are integers that are longer than a numeral may be. -/

namespace RecordMapper.Json

/-- The escape of a 16-bit unit. -/
def unitEscape (n : Nat) : List Char := '\\' :: 'u' :: Text.hexNumeral 4 n

/-- A character within quotes. Characters beyond ASCII are written in 16-bit units. -/
def charText (c : Char) : List Char :=
  if c = '"' then ['\\', '"']
  else if c = '\\' then ['\\', '\\']
  else if c = '\n' then ['\\', 'n']
  else if c = '\r' then ['\\', 'r']
  else if c = '\t' then ['\\', 't']
  else if c = '\x08' then ['\\', 'b']
  else if c = '\x0c' then ['\\', 'f']
  else if 0x20 ≤ c.toNat ∧ c.toNat < 0x7f then [c]
  else if c.toNat < 0x10000 then unitEscape c.toNat
  else
    let n := c.toNat - 0x10000
    unitEscape (0xd800 + n / 0x400) ++ unitEscape (0xdc00 + n % 0x400)

/-- The characters of a text within quotes. -/
def stringBody : List Char → List Char
  | [] => []
  | c :: cs => charText c ++ stringBody cs

/-- A text between quotes. -/
def stringText (s : String) : List Char := '"' :: stringBody s.toList ++ ['"']

/-- The text of a double. -/
def floatText : Number.Binary64 → List Char
  | .nan => ['N', 'a', 'N']
  | .infinity s =>
    (if s then ['-'] else []) ++ ['I', 'n', 'f', 'i', 'n', 'i', 't', 'y']
  | x => x.chars

/-- Joins texts with a comma and a space. -/
def joined : List (List Char) → List Char
  | [] => []
  | [x] => x
  | x :: xs => x ++ ',' :: ' ' :: joined xs

/-- Puts entries in the order of their names. -/
def sortEntries {α : Type} (es : List (String × α)) : List (String × α) :=
  es.mergeSort fun a b => a.1 ≤ b.1

/-- An entry: the name, a colon and the text of the value. -/
def entryText (e : String × List Char) : List Char := stringText e.1 ++ ':' :: ' ' :: e.2

/-- Why a value has no JSON text: JSON has no form for it, or it is an integer of too many
digits. -/
inductive WriteError where
  | noForm
  | longInteger
deriving DecidableEq, Repr

/-- The text of an integer. -/
def intText (i : Int) : Except WriteError (List Char) :=
  if Text.digitCount i.natAbs ≤ Number.longestNumeral then .ok (Text.intNumeral i)
  else .error .longInteger

/-- The texts of entries, if all of them have one. -/
def allWritten (es : List (String × Except WriteError (List Char))) :
    Except WriteError (List (String × List Char)) :=
  es.mapM fun e => e.2.map fun t => (e.1, t)

mutual

/-- The JSON text of a value. The first part of the text that cannot be written is the error. -/
def write : Value → Except WriteError (List Char)
  | .null => .ok ['n', 'u', 'l', 'l']
  | .bool b => .ok (if b then ['t', 'r', 'u', 'e'] else ['f', 'a', 'l', 's', 'e'])
  | .int i => intText i
  | .float x => .ok (floatText x)
  | .string s => .ok (stringText s)
  | .list xs => (writeItems xs).map fun ts => '[' :: joined ts ++ [']']
  | .tuple xs => (writeItems xs).map fun ts => '[' :: joined ts ++ [']']
  | .map es => (allWritten (sortEntries (writeEntries es))).map fun ts =>
      '\x7b' :: joined (ts.map entryText) ++ ['\x7d']
  | _ => .error .noForm

/-- The texts of the items of a list. -/
def writeItems : List Value → Except WriteError (List (List Char))
  | [] => .ok []
  | x :: xs => do
    let t ← write x
    let ts ← writeItems xs
    return t :: ts

/-- What writing the values of a map gives, by name. -/
def writeEntries : List (String × Value) → List (String × Except WriteError (List Char))
  | [] => []
  | (k, v) :: es => (k, write v) :: writeEntries es

end

end RecordMapper.Json
