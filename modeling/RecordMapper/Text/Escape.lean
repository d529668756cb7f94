import RecordMapper.Text.CharacterName
import RecordMapper.Text.Numeral
import RecordMapper.Text.Units

/-! # Escapes in quoted texts

What the characters between the quotes of a schema text stand for. A backslash begins an escape;
one that begins none stands for itself. Any other character stands for the bytes of its UTF-8 form,
one character for each. -/

namespace RecordMapper.Text

/-- The bytes of a character in UTF-8. -/
def utf8Bytes (c : Char) : List Nat := (String.utf8EncodeChar c).map UInt8.toNat

/-- The value of `count` hexadecimal digits in front. -/
def hexValue? : Nat → Nat → List Char → Option Nat
  | 0, acc, _ => some acc
  | _ + 1, _, [] => none
  | count + 1, acc, c :: cs =>
    match hexDigit? c with
    | some d => hexValue? count (acc * 16 + d) cs
    | none => none

/-- The value of an octal digit. -/
def octalDigit? (c : Char) : Option Nat :=
  if '0' ≤ c ∧ c ≤ '7' then some (c.toNat - 48) else none

/-- The octal digits in front, three at most. -/
def octalDigits (cs : List Char) : List Nat :=
  ((cs.take 3).takeWhile (fun c => (octalDigit? c).isSome)).filterMap octalDigit?

/-- The code point of a letter after a backslash. -/
def letterEscape? (c : Char) : Option Nat :=
  if c = '\\' ∨ c = '\'' ∨ c = '"' then some c.toNat
  else if c = 'a' then some 0x7
  else if c = 'b' then some 0x8
  else if c = 't' then some 0x9
  else if c = 'n' then some 0xa
  else if c = 'v' then some 0xb
  else if c = 'f' then some 0xc
  else if c = 'r' then some 0xd
  else none

/-- How many hexadecimal digits follow a letter after a backslash. -/
def hexEscape? (c : Char) : Option Nat :=
  if c = 'x' then some 2 else if c = 'u' then some 4 else if c = 'U' then some 8 else none

/-- What an escape stands for, and how many characters after the backslash and the first one belong
to it. The backslash of a `plain` one stands for itself, and a broken one is not finished or of no
character. -/
inductive EscapeMeaning where
  | code (n extra : Nat)
  | plain
  | broken

/-- The name between braces in front. -/
def bracedName? : List Char → Option (List Char)
  | '\x7b' :: cs => if cs.contains '\x7d' then some (before '\x7d' cs) else none
  | _ => none

/-- What an escape stands for that names a character. -/
def namedEscape (cs : List Char) : EscapeMeaning :=
  match bracedName? cs with
  | none => .broken
  | some name =>
    match characterNamed? name with
    | some n => .code n (name.length + 2)
    | none => .broken

/-- What the escape stands for that begins with `c` and goes on with `cs`. -/
def escapeMeaning (c : Char) (cs : List Char) : EscapeMeaning :=
  match letterEscape? c with
  | some n => .code n 0
  | none =>
  match hexEscape? c with
  | some count =>
    match hexValue? count 0 cs with
    | some n => if n < 0x110000 then .code n count else .broken
    | none => .broken
  | none =>
  match octalDigits (c :: cs) with
  | [] => if c = 'N' then namedEscape cs else .plain
  | ds => .code (ds.foldl (fun acc d => acc * 8 + d) 0) (ds.length - 1)

/-- The code points that the characters between the quotes stand for. -/
def unescapeUnits : List Char → Option (List Nat)
  | [] => some []
  | '\\' :: c :: cs =>
    match escapeMeaning c cs with
    | .code n extra => (unescapeUnits (cs.drop extra)).map (n :: ·)
    | .plain => (unescapeUnits (c :: cs)).map (0x5c :: ·)
    | .broken => none
  | ['\\'] => none
  | c :: cs => (unescapeUnits cs).map (utf8Bytes c ++ ·)
termination_by cs => cs.length

/-- What the characters between the quotes stand for; none when an escape is broken. Half of a
surrogate pair by itself is no character, and the replacement character U+FFFD stands for it. -/
def unescape? (cs : List Char) : Option String :=
  (unescapeUnits cs).map fun ns => String.ofList (joinPairs ns)

end RecordMapper.Text
