import RecordMapper.Text.Numeral
import RecordMapper.Text.Printable

/-! # Quoted texts

A text between single quotes, or between double quotes when it holds single quotes only.
Characters that do not show themselves are written as escapes. -/

namespace RecordMapper.Text

/-- A backslash and the escape after it. -/
def escaped (cs : List Char) : List Char := '\\' :: cs

/-- The quote that a text is put between. -/
def quoteFor (cs : List Char) : Char :=
  if cs.contains '\'' && !cs.contains '"' then '"' else '\''

/-- The escape of a character by its code point. -/
def codeEscape (n : Nat) : List Char :=
  if n < 0x100 then escaped ('x' :: hexNumeral 2 n)
  else if n < 0x10000 then escaped ('u' :: hexNumeral 4 n)
  else escaped ('U' :: hexNumeral 8 n)

/-- A character between quotes. -/
def quotedChar (quote c : Char) : List Char :=
  if c = quote ∨ c = '\\' then escaped [c]
  else if c = '\t' then escaped ['t']
  else if c = '\n' then escaped ['n']
  else if c = '\r' then escaped ['r']
  else if isPrintable c then [c]
  else codeEscape c.toNat

/-- A text between quotes. -/
def quoted (cs : List Char) : List Char :=
  let q := quoteFor cs
  q :: cs.flatMap (quotedChar q) ++ [q]

/-- A byte between quotes: the ASCII characters that show themselves, escapes otherwise. -/
def quotedByte (quote : Char) (b : UInt8) : List Char :=
  let c := Char.ofNat b.toNat
  if c = quote ∨ c = '\\' then escaped [c]
  else if c = '\t' then escaped ['t']
  else if c = '\n' then escaped ['n']
  else if c = '\r' then escaped ['r']
  else if 0x20 ≤ b.toNat ∧ b.toNat < 0x7f then [c]
  else codeEscape b.toNat

/-- Bytes between quotes, marked as bytes. -/
def quotedBytes (bs : List UInt8) : List Char :=
  let q := quoteFor (bs.map fun b => Char.ofNat b.toNat)
  'b' :: q :: bs.flatMap (quotedByte q) ++ [q]

end RecordMapper.Text
