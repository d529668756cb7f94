import RecordMapper.Text.Case
import RecordMapper.Text.Pattern.Division

/-! # Names derived from names

The relation of a schema is named after it: small letters with underscores between words, in the
plural. -/

namespace RecordMapper.Naming

open Text (Pattern)

/-! ## Words of a name -/

/-- An ASCII capital, `[A-Z]`. -/
def capital : Pattern := .set [.range 'A'.toNat 'Z'.toNat] false

/-- A small ASCII letter, `[a-z]`. -/
def small : Pattern := .set [.range 'a'.toNat 'z'.toNat] false

/-- A small ASCII letter or an ASCII digit, `[a-z0-9]`. -/
def smallOrDigit : Pattern :=
  .set [.range 'a'.toNat 'z'.toNat, .range '0'.toNat '9'.toNat] false

/-- One or more capitals, as many as possible, `[A-Z]+`. -/
def capitals : Pattern := .repeat capital 1 none false

/-- A capital before a small letter, `[A-Z][a-z]`. -/
def capitalised : Pattern := .seq capital small

/-- The name in small letters, an underscore before each word but the first. A run of capitals is
divided before the one that begins the next word, and then small letters and digits before a
capital. -/
def snakeCase (name : String) : String :=
  let runs := Pattern.divide '_' capitals capitalised name.toList
  let words := Pattern.divide '_' smallOrDigit capital runs
  Text.lower (String.ofList words)

/-! ## Plurals -/

/-- The text without a line break at its end. -/
def withoutFinalBreak (cs : List Char) : List Char :=
  if cs.getLast? = some '\n' then cs.dropLast else cs

/-- Whether the plural of a word that ends so takes `es`; the last letters come first. -/
def takesEs : List Char → Bool
  | 's' :: _ => true
  | 'x' :: _ => true
  | 'z' :: _ => true
  | 'h' :: 'c' :: _ => true
  | 'h' :: 's' :: _ => true
  | _ => false

/-- Whether the character is a small vowel. -/
def isVowel (c : Char) : Bool := c == 'a' || c == 'e' || c == 'i' || c == 'o' || c == 'u'

/-- Whether the plural of a word that ends so takes `ies`; the last letters come first. -/
def takesIes : List Char → Bool
  | 'y' :: c :: _ => !isVowel c
  | _ => false

/-- The plural of a word, by its ending. A line break at the end is looked past. -/
def pluralize (word : String) : String :=
  let ending := (withoutFinalBreak word.toList).reverse
  if takesEs ending then word ++ "es"
  else if takesIes ending then String.ofList word.toList.dropLast ++ "ies"
  else word ++ "s"

/-! ## Relations -/

/-- The relation of a schema that names none. -/
def defaultRelation (schema : String) : String := pluralize (snakeCase schema)

end RecordMapper.Naming
