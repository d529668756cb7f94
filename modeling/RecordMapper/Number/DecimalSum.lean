import RecordMapper.Number.Decimal

/-! # Sums of decimal numbers

Sums and differences are exact where they have few enough digits, and rounded otherwise, a tie going
to the even neighbour. The digits of the numbers decide how many places a sum shows. -/

namespace RecordMapper.Number

/-- Why there is no sum: it is beyond the largest number that is kept, or it is refused because of a
NaN or of infinities of opposite signs. -/
inductive SumError where
  | overflow
  | refused
deriving DecidableEq, Repr

namespace Decimal

/-- How many digits a sum has at most. -/
def precision : Nat := 28

/-- The largest exponent that the first digit of a sum may have. -/
def largestSumExponent : Int := 999999

/-- The largest exponent that the last of all digits of a sum may have. -/
def largestLastExponent : Int := largestSumExponent - (precision - 1)

/-- The least exponent that the last digit of a sum may have. -/
def leastLastExponent : Int := -largestSumExponent - (precision - 1)

/-- The opposite number. -/
def neg : Decimal → Decimal
  | .finite s c e => .finite (!s) c e
  | .infinity s => .infinity (!s)
  | .nan s signaling payload => .nan (!s) signaling payload

/-! ## Rounding -/

/-- A coefficient without its last digits, rounded. -/
def withoutDigits (c count : Nat) : Nat :=
  if count > Text.digitCount c then 0 else roundQuotient c (Nat.pow 10 count)

/-- The coefficient and the exponent with which a number is kept whose last digit may stand no lower
than `low`. -/
def roundedTo (c : Nat) (e low : Int) : Nat × Int :=
  if low ≤ e then (c, e)
  else
    let r := withoutDigits c (low - e).toNat
    if Text.digitCount r > precision then (r / 10, low + 1) else (r, low)

/-- The number as it is kept. -/
def kept (negative : Bool) (c : Nat) (e : Int) : Except SumError Decimal :=
  if c = 0 then
    .ok (.finite negative 0 (max leastLastExponent (min e largestSumExponent)))
  else
    let normal := e + Text.digitCount c - precision
    let low := max leastLastExponent normal
    let (r, f) := roundedTo c e low
    if normal > largestLastExponent ∨ (e < low ∧ f > largestLastExponent) then .error .overflow
    else .ok (.finite negative r f)

/-! ## Adding -/

/-- Brings two coefficients to the lower one of two exponents, `e` being the higher one. Where the
second number stands so low that only its sign can matter, a single digit stands for it. -/
def aligned (c : Nat) (e : Int) (d : Nat) (f : Int) : Nat × Nat × Int :=
  let least := e + min (-1) ((Text.digitCount c : Int) - precision - 2)
  let (d, f) := if f + Text.digitCount d - 1 < least then (1, least) else (d, f)
  (c * Nat.pow 10 (e - f).toNat, d, f)

/-- A number beside a zero of some exponent: it shows the places of the zero as far as they are
kept. -/
def besideZero (negative : Bool) (c : Nat) (e zero : Int) : Except SumError Decimal :=
  let f := max (min e zero) (e - precision - 1)
  kept negative (c * Nat.pow 10 (e - f).toNat) f

/-- The sum of two finite numbers. -/
def addFinite (s : Bool) (c : Nat) (e : Int) (t : Bool) (d : Nat) (f : Int) :
    Except SumError Decimal :=
  if c = 0 ∧ d = 0 then kept (s && t) 0 (min e f)
  else if c = 0 then besideZero t d f e
  else if d = 0 then besideZero s c e f
  else
    let (c, d, low) :=
      if f ≤ e then aligned c e d f
      else
        let (d, c, low) := aligned d f c e
        (c, d, low)
    let sum := Binary64.signed s c + Binary64.signed t d
    if sum = 0 then kept false 0 (min e f) else kept (sum < 0) sum.natAbs low

/-- A NaN as it comes out of a sum. -/
def passedOn (negative : Bool) (payload : Nat) : Decimal :=
  .nan negative false (payload % Nat.pow 10 precision)

/-- The sum of two numbers. -/
def add (a b : Decimal) : Except SumError Decimal :=
  if a.isSignaling || b.isSignaling then .error .refused
  else
    match a, b with
    | .nan s _ payload, _ => .ok (passedOn s payload)
    | _, .nan s _ payload => .ok (passedOn s payload)
    | .infinity s, .infinity t => if s = t then .ok (.infinity s) else .error .refused
    | .infinity s, _ => .ok (.infinity s)
    | _, .infinity t => .ok (.infinity t)
    | .finite s c e, .finite t d f => addFinite s c e t d f

/-- The difference of two numbers; a NaN keeps its sign. -/
def sub (a b : Decimal) : Except SumError Decimal :=
  match b with
  | .nan .. => a.add b
  | _ => a.add b.neg

end Decimal

end RecordMapper.Number
