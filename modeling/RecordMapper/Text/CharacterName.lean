import RecordMapper.Text.CharacterName.Alias
import RecordMapper.Text.CharacterName.From0000
import RecordMapper.Text.CharacterName.From0800
import RecordMapper.Text.CharacterName.From2000
import RecordMapper.Text.CharacterName.From2800
import RecordMapper.Text.CharacterName.From3000
import RecordMapper.Text.CharacterName.From10000
import RecordMapper.Text.CharacterName.From18000
import RecordMapper.Text.CharacterName.From1E000
import RecordMapper.Text.CharacterName.Numbered
import RecordMapper.Text.CharacterName.Syllable

/-! # Names of characters

The character that a name stands for (Unicode 14.0). The letters of a name may be small, but those
of a syllable or of a shared ideograph have to be capitals. -/

namespace RecordMapper.Text.CharacterName

/-- All tables of names. -/
def tables : List (List Block) :=
  [from0000, from0800, from2000, from2800, from3000, from10000, from18000, from1E000, aliases]

/-- The code point of the character of a name with capital letters that is listed in a table or
ends with its code point. -/
def listed? (name : List Char) : Option Nat :=
  match numbered? name with
  | some n => some n
  | none => tables.findSome? fun blocks => blocks.findSome? (·.find? name)

end CharacterName

/-- The code point of the character with a name. -/
def characterNamed? (name : List Char) : Option Nat :=
  match afterStart? "HANGUL SYLLABLE ".toList name with
  | some sounds => CharacterName.syllable? sounds
  | none =>
  match afterStart? "CJK UNIFIED IDEOGRAPH-".toList name with
  | some digits => CharacterName.unifiedIdeograph? digits
  | none => CharacterName.listed? (name.map Char.toUpper)

end RecordMapper.Text
