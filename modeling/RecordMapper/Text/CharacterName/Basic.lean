import RecordMapper.Text.Cut

/-! # Blocks of character names

Characters that follow each other often have names that begin in the same way. A block holds what
they have in common once. -/

namespace RecordMapper.Text.CharacterName

/-- The names of characters that follow each other. All begin with `head`, and lines with commas
between the names say how they go on. -/
structure Block where
  first : Nat
  head : String
  tails : List String

/-- The code point of the character of a name, if it is in the block. -/
def Block.find? (b : Block) (name : List Char) : Option Nat := do
  let rest ← afterStart? b.head.toList name
  let place ← (b.tails.flatMap fun line => splitAt ',' line.toList).findIdx? (· == rest)
  return b.first + place

end RecordMapper.Text.CharacterName
