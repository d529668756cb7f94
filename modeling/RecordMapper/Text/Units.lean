/-! # Units of 16 bits

Characters beyond U+FFFF are written as a pair of units that stand for no character of their own. A
unit of such a pair that stands alone is replaced by U+FFFD. -/

namespace RecordMapper.Text

/-- Whether the number is a first half of a pair. -/
def isHighUnit (n : Nat) : Bool := 0xd800 ≤ n && n < 0xdc00

/-- Whether the number is a second half of a pair. -/
def isLowUnit (n : Nat) : Bool := 0xdc00 ≤ n && n < 0xe000

/-- The character of a code point, of which half a pair has none. -/
def unitChar (n : Nat) : Char := if 0xd800 ≤ n ∧ n < 0xe000 then '\ufffd' else Char.ofNat n

/-- The character of a pair of units. -/
def pairChar (high low : Nat) : Char :=
  Char.ofNat (0x10000 + (high - 0xd800) * 0x400 + (low - 0xdc00))

/-- The characters of a row of code points, two halves of a pair joined. -/
def joinPairs : List Nat → List Char
  | [] => []
  | [n] => [unitChar n]
  | n :: m :: rest =>
    if isHighUnit n && isLowUnit m then pairChar n m :: joinPairs rest
    else unitChar n :: joinPairs (m :: rest)

end RecordMapper.Text
