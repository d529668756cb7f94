import RecordMapper.Number.Decimal

/-! # Reading numbers from text

Integers in several bases and floating-point numbers, as people type them: blanks around the
number, one underscore between two digits, and digits of every script. -/

namespace RecordMapper.Number

/-- The longest decimal numeral, in digits, that is turned into an integer. -/
def longestNumeral : Nat := 4300

/-- Why a text is not turned into an integer: it has another form, or too many digits. -/
inductive NumeralError where
  | malformed
  | tooLong (digits : Nat)
deriving DecidableEq, Repr

/-- The text of the error that a numeral of too many digits raises. -/
def NumeralError.tooLongMessage (digits : Nat) : String :=
  s!"Exceeds the limit ({longestNumeral} digits) for integer string conversion: value has {digits} digits; use sys.set_int_max_str_digits() to increase the limit"

/-- The text of the error that writing an integer of too many digits raises. -/
def longIntegerMessage : String :=
  s!"Exceeds the limit ({longestNumeral} digits) for integer string conversion; use sys.set_int_max_str_digits() to increase the limit"

/-- Whether the character may stand around a numeral: blanks, without the separators U+001C to
U+001F. -/
def isNumeralBlank (c : Char) : Bool := Text.isBlank c && !(0x1c ≤ c.toNat && c.toNat ≤ 0x1f)

/-- Drops what may stand around a numeral. -/
def trimNumeral (cs : List Char) : List Char :=
  ((cs.dropWhile isNumeralBlank).reverse.dropWhile isNumeralBlank).reverse

/-- Splits off an optional sign. -/
def splitSign : List Char → Bool × List Char
  | '-' :: r => (true, r)
  | '+' :: r => (false, r)
  | r => (false, r)

/-- Gives an integer its sign. -/
def withSign (negative : Bool) (n : Nat) : Int := if negative then -(n : Int) else n

/-- Reads digits with single underscores between them; `digit?` gives a digit's value, `prior`
says whether a digit stands right before. -/
def readDigits (digit? : Char → Option Nat) (base : Nat) (prior : Bool) (acc : Nat) :
    List Char → Option Nat
  | [] => if prior then some acc else none
  | '_' :: cs => if prior then readDigits digit? base false acc cs else none
  | c :: cs =>
    match digit? c with
    | some d => readDigits digit? base true (acc * base + d) cs
    | none => none

/-- Reads a decimal integer. -/
def readInteger (cs : List Char) : Except NumeralError Int :=
  let (negative, ds) := splitSign (trimNumeral cs)
  match readDigits Text.digit? 10 false 0 ds with
  | none => .error .malformed
  | some n =>
    let count := (ds.filter (· != '_')).length
    if count > longestNumeral then .error (.tooLong count) else .ok (withSign negative n)

/-- The value of a hexadecimal digit, a decimal digit of every script included. -/
def anyHexDigit? (c : Char) : Option Nat :=
  match Text.hexDigit? c with
  | some d => some d
  | none => Text.digit? c

/-- Reads a hexadecimal integer, with or without `0x` in front. -/
def readHexadecimal? (cs : List Char) : Option Int :=
  let (negative, ds) := splitSign (trimNumeral cs)
  let ds :=
    match ds with
    | z :: x :: r =>
      if Text.digit? z = some 0 ∧ (x = 'x' ∨ x = 'X') then
        match r with
        | '_' :: r => r
        | r => r
      else ds
    | _ => ds
  (readDigits anyHexDigit? 16 false 0 ds).map (withSign negative)

/-- Drops the underscores between digits; none when one stands anywhere else. -/
def dropUnderscores (prior : Bool) : List Char → Option (List Char)
  | [] => some []
  | '_' :: c :: cs =>
    if prior ∧ (Text.digit? c).isSome then
      (dropUnderscores true cs).map (c :: ·)
    else none
  | ['_'] => none
  | c :: cs => (dropUnderscores (Text.digit? c).isSome cs).map (c :: ·)

/-- Reads a double without a sign and without underscores. -/
def readUnsignedFloat (negative : Bool) (cs : List Char) : Option Binary64 :=
  match Decimal.smallLetters cs with
  | ['i', 'n', 'f'] => some (.infinity negative)
  | ['i', 'n', 'f', 'i', 'n', 'i', 't', 'y'] => some (.infinity negative)
  | ['n', 'a', 'n'] => some .nan
  | _ =>
    let (whole, wholeCount, rest) := Decimal.spanDigits 0 0 cs
    let (digits, places, rest) :=
      match rest with
      | '.' :: r => Decimal.spanDigits whole 0 r
      | r => (whole, 0, r)
    if wholeCount + places = 0 then none
    else (Decimal.readExponent rest).map fun e => .ofDecimal negative digits (e - places)

/-- Reads a double; a number beyond the largest one is infinite. -/
def readFloat? (cs : List Char) : Option Binary64 := do
  let plain ← dropUnderscores false (Text.trim cs)
  let (negative, body) := splitSign plain
  readUnsignedFloat negative body

end RecordMapper.Number
