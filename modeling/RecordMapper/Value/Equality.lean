import RecordMapper.Value.Basic

/-! # Equality of values

Numbers of all kinds are equal when they denote the same number, so `1`, `1.0` and `true` are equal
and a NaN differs from itself. Times are equal as instants. Texts, bytes, lists and tuples are
equal only among themselves, maps whatever the order of their entries. A signaling NaN refuses the
question when it comes up against a number, and then there is no answer. -/

namespace RecordMapper

/-- Why two values are not compared: the question makes no sense, or a NaN among decimal numbers
refuses it. -/
inductive ComparisonError where
  | incomparable
  | refused
deriving DecidableEq, Repr

namespace Value

/-- Whether two exact numbers are equal; no answer when one of them is a signaling NaN. -/
def sameNumber? (a b : Number.Decimal) : Option Bool :=
  if a.isSignaling || b.isSignaling then none else some (a.compare? b == some .eq)

mutual

/-- Whether two values are equal, if that can be said. -/
def equal? : Value → Value → Option Bool
  | .list xs, .list ys => if xs.length = ys.length then equalLists? xs ys else some false
  | .tuple xs, .tuple ys => equalLists? xs ys
  | .map es, .map fs => if es.length = fs.length then equalEntries? es fs else some false
  | .null, .null => some true
  | .string s, .string t => some (s == t)
  | .binary a, .binary b => some (a == b)
  | .uuid a, .uuid b => some (a == b)
  | .date a, .date b => some (a == b)
  | .time a, .time b => some (a.compare? b == some .eq)
  | .timestamp a, .timestamp b => some (a.compare? b == some .eq)
  | a, b =>
    match a.number?, b.number? with
    | some m, some n => sameNumber? m n
    | _, _ => some false

/-- Whether two lists are equal item by item, up to the first items that differ. -/
def equalLists? : List Value → List Value → Option Bool
  | [], [] => some true
  | x :: xs, y :: ys =>
    match equal? x y with
    | some true => equalLists? xs ys
    | answer => answer
  | _, _ => some false

/-- Whether every entry has an equal one of the same name, up to the first that has none. -/
def equalEntries? : List (String × Value) → Row Value → Option Bool
  | [], _ => some true
  | (k, v) :: es, fs =>
    match fs.find? k with
    | none => some false
    | some w =>
      match equal? v w with
      | some true => equalEntries? es fs
      | answer => answer

end

/-- Whether two values are known to be equal. -/
def equal (v w : Value) : Bool := equal? v w == some true

/-- The answer, or the error that there is none. -/
def orRefused : Option Bool → Except ComparisonError Bool
  | some b => .ok b
  | none => .error .refused

/-- Whether two values are equal, or the error that this cannot be said. -/
def isEqual (v w : Value) : Except ComparisonError Bool := orRefused (equal? v w)

/-- A number for the kind of a value. -/
def tag : Value → Nat
  | .null => 0
  | .bool _ => 1
  | .int _ => 2
  | .float _ => 3
  | .decimal _ => 4
  | .string _ => 5
  | .date _ => 6
  | .time _ => 7
  | .timestamp _ => 8
  | .binary _ => 9
  | .uuid _ => 10
  | .list _ => 11
  | .tuple _ => 12
  | .map _ => 13

/-- Whether two values are of one kind and equal, if that can be said. -/
def equalInKind? (v w : Value) : Option Bool := if v.tag = w.tag then equal? v w else some false

mutual

/-- Whether two values are equal and of one kind, and so are the items of tuples. -/
def identical? : Value → Value → Option Bool
  | .tuple xs, .tuple ys => identicalLists? xs ys
  | v, w => equalInKind? v w

/-- Whether two lists are equal and of one kind item by item. -/
def identicalLists? : List Value → List Value → Option Bool
  | [], [] => some true
  | x :: xs, y :: ys =>
    match identical? x y with
    | some true => identicalLists? xs ys
    | answer => answer
  | _, _ => some false

end

/-- Whether a test holds for one of the items up to the first for which it does. -/
def anyOf? {α : Type} (test : α → Option Bool) : List α → Option Bool
  | [] => some false
  | x :: xs =>
    match test x with
    | some false => anyOf? test xs
    | answer => answer

/-- Whether a value is equal to one of a list. -/
def isAmong (v : Value) (vs : List Value) : Except ComparisonError Bool :=
  orRefused (anyOf? (fun w => equal? w v) vs)

end Value

end RecordMapper
