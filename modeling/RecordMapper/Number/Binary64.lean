import RecordMapper.Number.Rounding
import RecordMapper.Text.Numeral

/-! # Binary floating-point numbers

Double-precision numbers as data: a sign, a mantissa below `2 ^ 53` and a binary exponent of at
least -1074. A mantissa below `2 ^ 52` occurs with the least exponent only, so each number has one
form. All operations are exact integer arithmetic followed by one rounding. -/

namespace RecordMapper.Number

/-- A double-precision number: none at all, one beyond the largest finite number, or `mantissa * 2 ^
exponent` with a sign. -/
inductive Binary64 where
  | nan
  | infinity (negative : Bool)
  | finite (negative : Bool) (mantissa : Nat) (exponent : Int)
deriving DecidableEq, Repr, Inhabited

namespace Binary64

/-- The least binary exponent. -/
def leastExponent : Int := -1074

/-- The largest binary exponent of a finite number. -/
def largestExponent : Int := 971

/-- Zero, with a sign. -/
def zero (negative : Bool) : Binary64 := .finite negative 0 leastExponent

/-- Shifts left by `k` places, or not at all when `k` is negative. -/
def shiftUp (n : Nat) (k : Int) : Nat := n * Nat.pow 2 k.toNat

/-- The number `num / den * 2 ^ (-e)` as a fraction. -/
def scaledBy (num den : Nat) (e : Int) : Nat × Nat := (shiftUp num (-e), shiftUp den e)

/-- The exponent for which the mantissa of `num / den` has 53 bits, but not below the least one. -/
def exponentFor (num den : Nat) : Int :=
  let guess : Int := (Nat.log2 num : Int) - (Nat.log2 den : Int) - 52
  let (n, d) := scaledBy num den guess
  let exact := if n < d * Nat.pow 2 52 then guess - 1 else guess
  max exact leastExponent

/-- The double nearest to `num / den`, ties to the even mantissa. -/
def ofRatio (negative : Bool) (num den : Nat) : Binary64 :=
  if num = 0 then zero negative
  else
    let e := exponentFor num den
    let (n, d) := scaledBy num den e
    let m := roundQuotient n d
    let (m, e) := if m = Nat.pow 2 53 then (Nat.pow 2 52, e + 1) else (m, e)
    if e > largestExponent then .infinity negative else .finite negative m e

/-- The double nearest to `± digits * 10 ^ exponent`. Numbers of more than 400 places before the
point are infinite and numbers below the 400th place after it are zero, whatever their digits. -/
def ofDecimal (negative : Bool) (digits : Nat) (exponent : Int) : Binary64 :=
  if digits = 0 then zero negative
  else
    let places := exponent + Text.digitCount digits
    if places > 400 then .infinity negative
    else if places < -400 then zero negative
    else if exponent ≥ 0 then ofRatio negative (digits * Nat.pow 10 exponent.toNat) 1
    else ofRatio negative digits (Nat.pow 10 (-exponent).toNat)

/-- The double nearest to an integer, infinite when the integer is too large. -/
def ofInt (i : Int) : Binary64 := ofRatio (i < 0) i.natAbs 1

/-- The number `n * 2 ^ e`, rounded; an exact zero has the given sign. -/
def ofDyadic (zeroSign : Bool) (n : Int) (e : Int) : Binary64 :=
  if n = 0 then zero zeroSign
  else ofRatio (n < 0) (shiftUp n.natAbs e) (shiftUp 1 (-e))

/-- The mantissa with its sign. -/
def signed (negative : Bool) (m : Nat) : Int := if negative then -(m : Int) else m

/-- The opposite number. -/
def neg : Binary64 → Binary64
  | .nan => .nan
  | .infinity s => .infinity (!s)
  | .finite s m e => .finite (!s) m e

/-- The sum of two doubles, rounded. -/
def add : Binary64 → Binary64 → Binary64
  | .nan, _ => .nan
  | _, .nan => .nan
  | .infinity s, .infinity t => if s = t then .infinity s else .nan
  | .infinity s, _ => .infinity s
  | _, .infinity t => .infinity t
  | .finite s m e, .finite t n f =>
    let low := min e f
    ofDyadic (s && t)
      (signed s (shiftUp m (e - low)) + signed t (shiftUp n (f - low))) low

/-- The difference of two doubles, rounded. -/
def sub (x y : Binary64) : Binary64 := add x (neg y)

/-- The integer part of a finite number, towards zero. -/
def truncate? : Binary64 → Option Int
  | .finite s m e => some (signed s (shiftUp m e / shiftUp 1 (-e)))
  | _ => none

/-! ## Shortest decimal text -/

/-- A decimal text in the making: the number is `0.digits * 10 ^ point`, and its digits do not end
with a zero. -/
structure Shortest where
  digits : List Char
  point : Int

/-- A quarter unit view of a double: the value, the lower and the upper end of the interval of reals
that round to it, over one denominator, and whether the ends belong to it. -/
structure Interval where
  low : Nat
  mid : Nat
  high : Nat
  den : Nat
  closed : Bool

/-- The interval of reals that round to `m * 2 ^ e`. -/
def intervalOf (m : Nat) (e : Int) : Interval :=
  let below := if m = Nat.pow 2 52 ∧ e > leastExponent then 1 else 2
  { low := shiftUp (4 * m - below) (e - 2)
    mid := shiftUp (4 * m) (e - 2)
    high := shiftUp (4 * m + 2) (e - 2)
    den := shiftUp 1 (2 - e)
    closed := m % 2 = 0 }

/-- Whether `d * unit / unitDen` lies in the interval. -/
def Interval.holds (i : Interval) (d unit unitDen : Nat) : Bool :=
  let x := d * unit * i.den
  let lo := i.low * unitDen
  let hi := i.high * unitDen
  if i.closed then lo ≤ x && x ≤ hi else lo < x && x < hi

/-- The power of ten just above the value. -/
def Interval.point (i : Interval) : Int :=
  let k : Int := (Text.digitCount i.mid : Int) - (Text.digitCount i.den : Int)
  let reached :=
    if k ≥ 0 then i.den * Nat.pow 10 k.toNat ≤ i.mid else i.den ≤ i.mid * Nat.pow 10 (-k).toNat
  if reached then k + 1 else k

/-- The multiple of `10 ^ k` in the interval that is nearest to its value, if there is one. -/
def Interval.onGrid? (i : Interval) (k : Int) : Option Nat :=
  let unit := Nat.pow 10 k.toNat
  let unitDen := Nat.pow 10 (-k).toNat
  let num := i.mid * unitDen
  let den := unit * i.den
  let near := roundQuotient num den
  let down := num / den
  let far := if near = down then down + 1 else down
  if i.holds near unit unitDen then some near
  else if i.holds far unit unitDen then some far
  else none

/-- Tries grids of ever more digits, `tries` of them. -/
def Interval.search (i : Interval) (point : Int) : Nat → Nat → Nat × Int
  | 0, used =>
    let k := point - used
    (roundQuotient (i.mid * Nat.pow 10 (-k).toNat) (i.den * Nat.pow 10 k.toNat), k)
  | tries + 1, used =>
    match i.onGrid? (point - (used + 1 : Nat)) with
    | some d => (d, point - (used + 1 : Nat))
    | none => i.search point tries (used + 1)

/-- The fewest digits that read back as `m * 2 ^ e`, for a mantissa other than zero. -/
def shortest (m : Nat) (e : Int) : Shortest :=
  let i := intervalOf m e
  let (d, k) := i.search i.point 17 0
  let ds := Text.numeral d
  { digits := (ds.reverse.dropWhile (· == '0')).reverse, point := k + ds.length }

/-- The exponent part: a sign and at least two digits. -/
def exponentText (k : Int) : List Char :=
  'e' :: (if k < 0 then '-' else '+') :: Text.padded 2 k.natAbs

/-- Writes digits: positional when the point stands at -3 to 16, with an exponent otherwise. -/
def Shortest.text (s : Shortest) : List Char :=
  if -4 < s.point ∧ s.point ≤ 16 then
    if s.point ≤ 0 then '0' :: '.' :: List.replicate (-s.point).toNat '0' ++ s.digits
    else
      let n := s.point.toNat
      if s.digits.length ≤ n then
        s.digits ++ List.replicate (n - s.digits.length) '0' ++ ['.', '0']
      else s.digits.take n ++ '.' :: s.digits.drop n
  else
    match s.digits with
    | [] => []
    | [d] => d :: exponentText (s.point - 1)
    | d :: ds => d :: '.' :: ds ++ exponentText (s.point - 1)

/-- The text of a double: the fewest digits that read back. -/
def chars : Binary64 → List Char
  | .nan => ['n', 'a', 'n']
  | .infinity s => (if s then ['-'] else []) ++ ['i', 'n', 'f']
  | .finite s m e =>
    (if s then ['-'] else []) ++ (if m = 0 then ['0', '.', '0'] else (shortest m e).text)

/-- The text of a double. -/
def text (x : Binary64) : String := String.ofList x.chars

end Binary64

end RecordMapper.Number
