import RecordMapper.Text.Blank
import RecordMapper.Text.Digit
import RecordMapper.Text.Letter
import RecordMapper.Text.Word

/-! # Patterns

A pattern describes texts. At a place of a text it may be found in several ways, which are tried in
a certain order. -/

namespace RecordMapper.Text

/-- A class of characters with a name of its own. -/
inductive NamedClass where
  | digit
  | word
  | blank
deriving DecidableEq, Repr

/-- Whether a character belongs to a named class. -/
def NamedClass.holds : NamedClass → Char → Bool
  | .digit, c => isDigit c
  | .word, c => isWord c
  | .blank, c => isBlank c

/-- Whether a character belongs to a named class of ASCII characters. -/
def NamedClass.holdsAscii : NamedClass → Char → Bool
  | .digit, c => c.isDigit
  | .word, c => c.isAlphanum || c == '_'
  | .blank, c => c == ' ' || '\t' ≤ c && c ≤ '\r'

/-- A part of a set of characters: the code points from one to another, the same in either case, or
a named class or what is outside of it. What is `ascii` knows ASCII letters and classes only. -/
inductive CharItem where
  | range (first last : Nat)
  | eitherCase (ascii : Bool) (first last : Nat)
  | named (cls : NamedClass) (ascii negated : Bool)
deriving DecidableEq, Repr

/-- Whether a character belongs to a part of a set. -/
def CharItem.holds : CharItem → Char → Bool
  | .range a b, c => a ≤ c.toNat && c.toNat ≤ b
  | .eitherCase ascii a b, c =>
    let same := if ascii then sameAsciiLetter c.toNat else sameLetter c.toNat
    same.any fun n => a ≤ n && n ≤ b
  | .named cls ascii negated, c => (if ascii then cls.holdsAscii c else cls.holds c) != negated

/-- When two characters are the same: as they are, or in their small forms. -/
inductive Casing where
  | exact
  | asciiLetters
  | letters
deriving DecidableEq, Repr

/-- What two characters have in common just when they are the same. -/
def Casing.key : Casing → Char → Nat
  | .exact, c => c.toNat
  | .asciiLetters, c => c.toLower.toNat
  | .letters, c => smallForm c.toNat

/-- A condition on a place in a text. Lines end before a line break, and `lineEnd` is the end of the
last one, with or without a line break after it. -/
inductive Anchor where
  | start
  | lineStart
  | lineEnd
  | everyLineEnd
  | textEnd
  | wordEdge (ascii : Bool)
  | noWordEdge (ascii : Bool)
deriving DecidableEq, Repr

/-- A pattern. A repetition goes on as often as possible unless it is `seldom`. What is first found
of a `committed` pattern is not found in a second way. A `group` keeps what is found of it under its
number: the `same` can be found again, and `ifGroup` goes by whether there is anything. A pattern to
`look` for takes no characters; it begins so many characters `back`. -/
inductive Pattern where
  | empty
  | any
  | set (items : List CharItem) (negated : Bool)
  | anchor (a : Anchor)
  | seq (p q : Pattern)
  | alt (p q : Pattern)
  | repeat (p : Pattern) (least : Nat) (most : Option Nat) (seldom : Bool)
  | committed (p : Pattern)
  | group (number : Nat) (p : Pattern)
  | same (number : Nat) (casing : Casing)
  | look (back : Nat) (negated : Bool) (p : Pattern)
  | ifGroup (number : Nat) (p q : Pattern)
deriving DecidableEq, Repr

end RecordMapper.Text
