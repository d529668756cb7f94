import RecordMapper.Text.Cut
import RecordMapper.Text.Numeral
import RecordMapper.Text.Ranges

/-! # Names with a number

Characters of the large scripts have no name of their own. They are named by their script and their
code point. -/

namespace RecordMapper.Text.CharacterName

/-- The ideographs that several scripts share. -/
def unifiedIdeographs : Ranges :=
  [(0x3400, 0x4dbf), (0x4e00, 0x9fff), (0x20000, 0x2a6df), (0x2a700, 0x2b738), (0x2b740, 0x2b81d),
   (0x2b820, 0x2cea1), (0x2ceb0, 0x2ebe0), (0x30000, 0x3134a)]

/-- What other names begin with that end with a code point, and the characters that have one. -/
def numberedScripts : List (String × Ranges) :=
  [("CJK COMPATIBILITY IDEOGRAPH-", [(0xf900, 0xfa6d), (0xfa70, 0xfad9), (0x2f800, 0x2fa1d)]),
   ("KHITAN SMALL SCRIPT CHARACTER-", [(0x18b00, 0x18cd5)]),
   ("NUSHU CHARACTER-", [(0x1b170, 0x1b2fb)])]

/-- The number of four or five hexadecimal digits with capital letters. -/
def codeNumber? (cs : List Char) : Option Nat :=
  if (cs.length = 4 ∨ cs.length = 5) ∧ cs.all (fun c => !c.isLower) then
    (cs.mapM hexDigit?).map (·.foldl (fun acc d => acc * 16 + d) 0)
  else none

/-- The code point of a shared ideograph from the digits in its name; zeros may stand in front. -/
def unifiedIdeograph? (digits : List Char) : Option Nat := do
  let n ← codeNumber? digits
  if unifiedIdeographs.contains (Char.ofNat n) then some n else none

/-- The code point of a character of another script whose name ends with it; no zero stands in
front. -/
def numbered? (name : List Char) : Option Nat :=
  numberedScripts.findSome? fun (start, characters) => do
    let digits ← afterStart? start.toList name
    let n ← codeNumber? digits
    if characters.contains (Char.ofNat n) ∧ (n < 0x10000 ↔ digits.length = 4) then some n else none

end RecordMapper.Text.CharacterName
