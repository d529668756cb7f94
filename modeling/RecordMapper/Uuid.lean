import RecordMapper.Number.Reader

/-! # Universally unique identifiers -/

namespace RecordMapper

/-- An identifier of 128 bits. -/
structure Uuid where
  bits : BitVec 128
deriving DecidableEq, Repr

namespace Uuid

/-- Drops every occurrence of a word, `skip` characters of one still to be dropped. -/
def dropWord (word : List Char) : Nat → List Char → List Char
  | _, [] => []
  | 0, c :: cs =>
    if word.isPrefixOf (c :: cs) then dropWord word (word.length - 1) cs
    else c :: dropWord word 0 cs
  | skip + 1, _ :: cs => dropWord word skip cs

/-- Whether the character is a brace. -/
def isBrace (c : Char) : Bool := c == '\x7b' || c == '\x7d'

/-- Drops the braces at both ends. -/
def dropBraces (cs : List Char) : List Char :=
  ((cs.dropWhile isBrace).reverse.dropWhile isBrace).reverse

/-- Reads an identifier: 32 hexadecimal digits, dashes anywhere between them, with or without
braces and the words `urn:` and `uuid:`. -/
def ofChars? (cs : List Char) : Option Uuid :=
  let bare := dropWord ['u', 'u', 'i', 'd', ':'] 0 (dropWord ['u', 'r', 'n', ':'] 0 cs)
  let digits := (dropBraces bare).filter (· != '-')
  if digits.length = 32 then
    (Number.readHexadecimal? digits).map fun i => ⟨BitVec.ofInt 128 i⟩
  else none

/-- Reads an identifier. -/
def ofString? (s : String) : Option Uuid := ofChars? s.toList

/-- The identifier made of sixteen bytes, the first one highest. -/
def ofBytes (bs : List UInt8) : Uuid :=
  ⟨BitVec.ofNat 128 (bs.foldl (fun acc b => acc * 256 + b.toNat) 0)⟩

/-- The identifier in five groups of small hexadecimal digits. -/
def chars (u : Uuid) : List Char :=
  let ds := Text.hexNumeral 32 u.bits.toNat
  ds.take 8 ++ '-' :: (ds.drop 8).take 4 ++ '-' :: (ds.drop 12).take 4 ++
    '-' :: (ds.drop 16).take 4 ++ '-' :: ds.drop 20

/-- The identifier in five groups of small hexadecimal digits. -/
def text (u : Uuid) : String := String.ofList u.chars

end Uuid

end RecordMapper
