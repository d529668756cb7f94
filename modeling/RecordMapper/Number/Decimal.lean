import RecordMapper.Number.Binary64
import RecordMapper.Text.Blank
import RecordMapper.Text.Digit

/-! # Decimal floating-point numbers

Decimal numbers that keep their digits: a coefficient and a decimal exponent, so that `1.0` and
`1.00` are equal in value and different in form. Reading is exact or it fails, writing gives the
scientific text from which the same form is read back. -/

namespace RecordMapper.Number

/-- A decimal number: `coefficient * 10 ^ exponent` with a sign, one beyond all of these, or none at
all with a diagnostic payload. -/
inductive Decimal where
  | finite (negative : Bool) (coefficient : Nat) (exponent : Int)
  | infinity (negative : Bool)
  | nan (negative signaling : Bool) (payload : Nat)
deriving DecidableEq, Repr, Inhabited

namespace Decimal

/-- The largest exponent that the first digit of a number may have. -/
def largestAdjusted : Int := 999999999999999999

/-- The least exponent that the last digit of a number may have. -/
def leastExponent : Int := -1999999999999999997

/-- Whether the number is neither infinite nor a NaN. -/
def isFinite : Decimal → Bool
  | .finite .. => true
  | _ => false

/-- Whether the number is a NaN that refuses every comparison. -/
def isSignaling : Decimal → Bool
  | .nan _ signaling _ => signaling
  | _ => false

/-- An integer as a decimal. -/
def ofInt (i : Int) : Decimal := .finite (i < 0) i.natAbs 0

/-- The exact value of a double. -/
def ofBinary64 : Binary64 → Decimal
  | .nan => .nan false false 0
  | .infinity s => .infinity s
  | .finite s m e =>
    if e ≥ 0 then .finite s (m * Nat.pow 2 e.toNat) 0 else .finite s (m * Nat.pow 5 (-e).toNat) e

/-! ## Reading -/

/-- Splits off the decimal digits in front: their number, how many they are, and the rest. -/
def spanDigits (acc count : Nat) : List Char → Nat × Nat × List Char
  | [] => (acc, count, [])
  | c :: cs =>
    match Text.digit? c with
    | some d => spanDigits (acc * 10 + d) (count + 1) cs
    | none => (acc, count, c :: cs)

/-- Reads an exponent part that ends the text, or nothing. -/
def readExponent : List Char → Option Int
  | [] => some 0
  | c :: cs =>
    if c = 'e' ∨ c = 'E' then
      let (negative, cs) :=
        match cs with
        | '-' :: r => (true, r)
        | '+' :: r => (false, r)
        | r => (false, r)
      match spanDigits 0 0 cs with
      | (n, count, []) => if count = 0 then none else some (if negative then -(n : Int) else n)
      | _ => none
    else none

/-- Keeps a finite number when its exponents are within the limits. -/
def checked (negative : Bool) (coefficient : Nat) (exponent : Int) : Option Decimal :=
  let adjusted := if coefficient = 0 then exponent
    else exponent + Text.digitCount coefficient - 1
  if exponent < leastExponent ∨ adjusted > largestAdjusted then none
  else some (.finite negative coefficient exponent)

/-- Reads digits with an optional point and an optional exponent: the coefficient, and the exponent
of its last digit. -/
def readForm (cs : List Char) : Option (Nat × Int) :=
  let (whole, wholeCount, rest) := spanDigits 0 0 cs
  let (coefficient, places, rest) :=
    match rest with
    | '.' :: r => spanDigits whole 0 r
    | r => (whole, 0, r)
  if wholeCount + places = 0 then none
  else (readExponent rest).map fun e => (coefficient, e - places)

/-- Reads digits with an optional point and an optional exponent, if the number is within the
limits. -/
def readNumber (negative : Bool) (cs : List Char) : Option Decimal := do
  let (coefficient, exponent) ← readForm cs
  checked negative coefficient exponent

/-- The text with ASCII capitals made small. -/
def smallLetters (cs : List Char) : List Char := cs.map Char.toLower

/-- Reads the digits of a NaN's payload, which end the text. -/
def readPayload (negative signaling : Bool) (cs : List Char) : Option Decimal :=
  match spanDigits 0 0 cs with
  | (n, _, []) => some (.nan negative signaling n)
  | _ => none

/-- Reads a number without a sign. -/
def readUnsigned (negative : Bool) (cs : List Char) : Option Decimal :=
  match smallLetters cs with
  | ['i', 'n', 'f'] => some (.infinity negative)
  | ['i', 'n', 'f', 'i', 'n', 'i', 't', 'y'] => some (.infinity negative)
  | 'n' :: 'a' :: 'n' :: _ => readPayload negative false (cs.drop 3)
  | 's' :: 'n' :: 'a' :: 'n' :: _ => readPayload negative true (cs.drop 4)
  | _ => readNumber negative cs

/-- Reads a decimal number: blanks around it and all underscores are ignored, digits of every
script are accepted, and a number that has no exact form within the limits is refused. -/
def ofChars? (cs : List Char) : Option Decimal :=
  match (Text.trim cs).filter (· != '_') with
  | '-' :: r => readUnsigned true r
  | '+' :: r => readUnsigned false r
  | r => readUnsigned false r

/-- Reads a decimal number. -/
def ofString? (s : String) : Option Decimal := ofChars? s.toList

/-! ## Writing -/

/-- The sign of a text. -/
def signChars (negative : Bool) : List Char := if negative then ['-'] else []

/-- The exponent part: nothing for zero, otherwise a sign and the digits. -/
def exponentText (k : Int) : List Char :=
  if k = 0 then [] else 'E' :: (if k < 0 then '-' else '+') :: Text.numeral k.natAbs

/-- Digits with a point after the first one. -/
def pointed : List Char → List Char
  | [] => []
  | [d] => [d]
  | d :: ds => d :: '.' :: ds

/-- Digits and an exponent as text: positional when the exponent is not positive and the first
digit stands at most six places after the point, scientific otherwise. -/
def digitsText (ds : List Char) (exponent : Int) : List Char :=
  let adjusted := exponent + ds.length - 1
  if exponent ≤ 0 ∧ adjusted ≥ -6 then
    let places := (-exponent).toNat
    if places = 0 then ds
    else if ds.length ≤ places then
      '0' :: '.' :: List.replicate (places - ds.length) '0' ++ ds
    else ds.take (ds.length - places) ++ '.' :: ds.drop (ds.length - places)
  else pointed ds ++ exponentText adjusted

/-- The text of a decimal number. -/
def chars : Decimal → List Char
  | .finite s c e => signChars s ++ digitsText (Text.numeral c) e
  | .infinity s => signChars s ++ ['I', 'n', 'f', 'i', 'n', 'i', 't', 'y']
  | .nan s signaling payload =>
    signChars s ++ (if signaling then ['s'] else []) ++ ['N', 'a', 'N'] ++
      (if payload = 0 then [] else Text.numeral payload)

/-- The text of a decimal number. -/
def text (d : Decimal) : String := String.ofList d.chars

/-! ## Value -/

/-- Compares two nonzero magnitudes: first by the place of the first digit, then digit by digit. -/
def compareMagnitude (c : Nat) (e : Int) (d : Nat) (f : Int) : Ordering :=
  let a := e + Text.digitCount c
  let b := f + Text.digitCount d
  if a < b then .lt
  else if b < a then .gt
  else
    let low := min e f
    compare (c * Nat.pow 10 (e - low).toNat) (d * Nat.pow 10 (f - low).toNat)

/-- Compares two finite numbers by value. -/
def compareFinite (s : Bool) (c : Nat) (e : Int) (t : Bool) (d : Nat) (f : Int) : Ordering :=
  if c = 0 ∧ d = 0 then .eq
  else if c = 0 then (if t then .gt else .lt)
  else if d = 0 then (if s then .lt else .gt)
  else if s != t then (if s then .lt else .gt)
  else if s then compareMagnitude d f c e
  else compareMagnitude c e d f

/-- Compares two numbers by value; a NaN is comparable with nothing. -/
def compare? : Decimal → Decimal → Option Ordering
  | .nan .., _ => none
  | _, .nan .. => none
  | .infinity s, .infinity t => some (if s = t then .eq else if s then .lt else .gt)
  | .infinity s, _ => some (if s then .lt else .gt)
  | _, .infinity t => some (if t then .gt else .lt)
  | .finite s c e, .finite t d f => some (compareFinite s c e t d f)

/-- The number of digits that `c * 10 ^ e` has before the point, none of them when it is below
one. -/
def wholeDigits (c : Nat) (e : Int) : Nat :=
  if c = 0 then 0 else (e + Text.digitCount c).toNat

/-- The integer part of `c * 10 ^ e` with a sign. All numbers of more than a thousand digits before
the point count as `10 ^ 1000`. -/
def wholePart (s : Bool) (c : Nat) (e : Int) : Int :=
  let n :=
    if wholeDigits c e = 0 then 0
    else if wholeDigits c e > 1000 then Nat.pow 10 1000
    else if e ≥ 0 then c * Nat.pow 10 e.toNat
    else c / Nat.pow 10 (-e).toNat
  if s then -(n : Int) else n

/-- The nearest double. -/
def toBinary64 : Decimal → Binary64
  | .finite s c e => .ofDecimal s c e
  | .infinity s => .infinity s
  | .nan .. => .nan

end Decimal

end RecordMapper.Number
