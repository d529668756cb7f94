import RecordMapper.Value.Equality

/-! # Order of values

Numbers are ordered as numbers, texts and bytes character by character, dates and times in time,
lists and tuples by the first items that differ. Anything else cannot be compared. A NaN is neither
less nor greater than any number; among decimal numbers it refuses the question. -/

namespace RecordMapper.Value

/-- How two values compare: one way or the other, or not at all because a NaN is involved, because
it refuses the question, or because that makes no sense. -/
inductive Comparison where
  | ordered (o : Ordering)
  | unordered
  | refused
  | incomparable
deriving DecidableEq, Repr

namespace Comparison

/-- A comparison that may make no sense. -/
def ofOption : Option Ordering → Comparison
  | some o => .ordered o
  | none => .incomparable

/-- How two numbers compare of which one may be a NaN, `exact` saying that one is a decimal. -/
def ofNumbers (exact : Bool) : Option Ordering → Comparison
  | some o => .ordered o
  | none => if exact then .refused else .unordered

/-- Whether an ordering test holds. -/
def test (p : Ordering → Bool) : Comparison → Except ComparisonError Bool
  | .ordered o => .ok (p o)
  | .unordered => .ok false
  | .refused => .error .refused
  | .incomparable => .error .incomparable

end Comparison

/-- Compares lists of bytes. -/
def compareBytes : List UInt8 → List UInt8 → Ordering
  | [], [] => .eq
  | [], _ :: _ => .lt
  | _ :: _, [] => .gt
  | a :: as, b :: bs => (compare a.toNat b.toNat).then (compareBytes as bs)

/-- Compares texts by code points. -/
def compareText : List Char → List Char → Ordering
  | [], [] => .eq
  | [], _ :: _ => .lt
  | _ :: _, [] => .gt
  | a :: as, b :: bs => (compare a.toNat b.toNat).then (compareText as bs)

mutual

/-- Compares two values. -/
def order : Value → Value → Comparison
  | .list xs, .list ys => orderLists xs ys
  | .tuple xs, .tuple ys => orderLists xs ys
  | .string s, .string t => .ordered (compareText s.toList t.toList)
  | .binary a, .binary b => .ordered (compareBytes a b)
  | .uuid a, .uuid b => .ordered (compare a.bits.toNat b.bits.toNat)
  | .date a, .date b => .ordered (compare a.dayNumber b.dayNumber)
  | .time a, .time b => .ofOption (a.compare? b)
  | .timestamp a, .timestamp b => .ofOption (a.compare? b)
  | a, b =>
    match a.number?, b.number? with
    | some m, some n => .ofNumbers (a.isDecimal || b.isDecimal) (m.compare? n)
    | _, _ => .incomparable

/-- Compares two lists by the first items that are not equal. -/
def orderLists : List Value → List Value → Comparison
  | [], [] => .ordered .eq
  | [], _ :: _ => .ordered .lt
  | _ :: _, [] => .ordered .gt
  | x :: xs, y :: ys =>
    match equal? x y with
    | some true => orderLists xs ys
    | some false => order x y
    | none => .refused

end

end RecordMapper.Value
