import RecordMapper.Value.Equality

/-! # Terms

The terms that stand in the clauses of a query. Two terms are the same when they are built in the
same way; literals are told apart by kind and value, so `true`, `1` and `1.0` differ. -/

namespace RecordMapper

/-- An operator between two terms; an `other` one is none of the language. -/
inductive Operator where
  | eq
  | ne
  | lt
  | le
  | gt
  | ge
  | like
  | ilike
  | add
  | sub
  | mul
  | div
  | other (name : String)
deriving DecidableEq, Repr

namespace Operator

/-- The operators of the language. -/
def all : List Operator := [.eq, .ne, .lt, .le, .gt, .ge, .like, .ilike, .add, .sub, .mul, .div]

/-- The sign or the word for an operator. -/
def symbol : Operator → String
  | .eq => "="
  | .ne => "<>"
  | .lt => "<"
  | .le => "<="
  | .gt => ">"
  | .ge => ">="
  | .like => "like"
  | .ilike => "ilike"
  | .add => "+"
  | .sub => "-"
  | .mul => "*"
  | .div => "/"
  | .other name => name

/-- The name of an operator, by which terms are built with it. -/
def name : Operator → String
  | .eq => "eq"
  | .ne => "ne"
  | .lt => "lt"
  | .le => "le"
  | .gt => "gt"
  | .ge => "ge"
  | .like => "like"
  | .ilike => "ilike"
  | .add => "add"
  | .sub => "sub"
  | .mul => "mul"
  | .div => "div"
  | .other name => name

/-- The operator of a name. -/
def ofName? (s : String) : Option Operator := all.find? (·.name == s)

/-- The operator of a sign or word. -/
def ofSymbol (s : String) : Operator := (all.find? (·.symbol == s)).getD (.other s)

/-- Whether the operator compares values. -/
def isComparison : Operator → Bool
  | .eq | .ne | .lt | .le | .gt | .ge | .like | .ilike => true
  | _ => false

end Operator

/-- What joins several conditions; an `other` one is nothing of the language. -/
inductive Connective where
  | and
  | or
  | other (name : String)
deriving DecidableEq, Repr

namespace Connective

/-- The word for a connective. -/
def word : Connective → String
  | .and => "and"
  | .or => "or"
  | .other name => name

/-- The connective of a word. -/
def ofWord (s : String) : Connective :=
  if s = "and" then .and else if s = "or" then .or else .other s

end Connective

/-- A function of the values of a group of rows; an `other` one is none of the language. -/
inductive AggregateFunction where
  | count
  | sum
  | avg
  | min
  | max
  | other (name : String)
deriving DecidableEq, Repr

namespace AggregateFunction

/-- The word for a function. -/
def word : AggregateFunction → String
  | .count => "count"
  | .sum => "sum"
  | .avg => "avg"
  | .min => "min"
  | .max => "max"
  | .other name => name

/-- The function of a word. -/
def ofWord (s : String) : AggregateFunction :=
  ([count, sum, avg, min, max].find? (·.word == s)).getD (.other s)

end AggregateFunction

/-- A direction of sorting, the least or the greatest first. -/
inductive Direction where
  | asc
  | desc
deriving DecidableEq, Repr

namespace Direction

/-- The word for a direction. -/
def word : Direction → String
  | .asc => "asc"
  | .desc => "desc"

/-- The direction of a word. -/
def ofWord? (s : String) : Option Direction :=
  if s = "asc" then some .asc else if s = "desc" then some .desc else none

end Direction

/-- A term. An aggregate without an operand is the number of rows, and a fragment has a parameter
for each slot. What is no term can stand in the place of one: a term to sort by, a pair of a term
and the word for a direction, and a plain value. What is `held` in the place of a literal is neither
a term nor a value and is bound as it is. -/
inductive Term where
  | field (binding name : String)
  | literal (v : Value)
  | binary (op : Operator) (left right : Term)
  | connected (op : Connective) (operands : List Term)
  | not (operand : Term)
  | isNull (operand : Term) (negated : Bool)
  | inList (operand : Term) (values : List Term) (negated : Bool)
  | aggregate (function : AggregateFunction) (operand : Option Term) (distinct : Bool)
  | fragment (raw : String) (params : List Term)
  | alias (term : Term) (name : String)
  | order (term : Term) (direction : Direction)
  | pair (first : Term) (word : String)
  | plain (v : Value)
  | held (item : Term)
deriving Repr, Inhabited

namespace Term

/-- Whether what stands in the place of a term is one. -/
def isTerm : Term → Bool
  | .order .. => false
  | .pair .. => false
  | .plain _ => false
  | _ => true

/-- Whether the term is the literal without a value. -/
def isNullLiteral : Term → Bool
  | .literal .null => true
  | _ => false

/-- The second answer if the first is yes, and the first one otherwise. -/
def both? (first second : Option Bool) : Option Bool :=
  match first with
  | some true => second
  | answer => answer

mutual

/-- Whether two terms are built in the same way, if that can be said. -/
def same? : Term → Term → Option Bool
  | .field b n, .field c m => some (b == c && n == m)
  | .literal v, .literal w => Value.identical? v w
  | .binary o l r, .binary p m s =>
    if o = p then both? (same? l m) (same? r s) else some false
  | .connected o xs, .connected p ys => if o = p then sameLists? xs ys else some false
  | .not x, .not y => same? x y
  | .isNull x b, .isNull y c => both? (same? x y) (some (b == c))
  | .inList x xs b, .inList y ys c =>
    both? (same? x y) (both? (sameLists? xs ys) (some (b == c)))
  | .aggregate f none d, .aggregate g none e => some (f == g && d == e)
  | .aggregate f (some x) d, .aggregate g (some y) e =>
    if f = g then both? (same? x y) (some (d == e)) else some false
  | .fragment r ps, .fragment s qs => if r = s then sameParams? ps qs else some false
  | .alias x n, .alias y m => both? (same? x y) (some (n == m))
  | .order x d, .order y e => both? (same? x y) (some (d == e))
  | .pair x d, .pair y e => both? (same? x y) (some (d == e))
  | .plain v, .plain w => Value.equal? v w
  | .held x, .held y => same? x y
  | _, _ => some false

/-- Whether two lists of terms are the same term by term, up to the first that differ. -/
def sameLists? : List Term → List Term → Option Bool
  | [], [] => some true
  | x :: xs, y :: ys => both? (same? x y) (sameLists? xs ys)
  | _, _ => some false

/-- Whether two lists of parameters are the same, up to the first that differ; values are told apart
by kind. -/
def sameParams? : List Term → List Term → Option Bool
  | [], [] => some true
  | .plain v :: xs, .plain w :: ys => both? (Value.identical? v w) (sameParams? xs ys)
  | x :: xs, y :: ys => both? (same? x y) (sameParams? xs ys)
  | _, _ => some false

end

/-- Whether two terms are known to be built in the same way. -/
def same (t u : Term) : Bool := same? t u == some true

mutual

/-- The values that a term holds, in order. -/
def values : Term → List Value
  | .field .. => []
  | .literal v => [v]
  | .binary _ l r => values l ++ values r
  | .connected _ xs => allValues xs
  | .not x => values x
  | .isNull x _ => values x
  | .inList x xs _ => values x ++ allValues xs
  | .aggregate _ none _ => []
  | .aggregate _ (some x) _ => values x
  | .fragment _ ps => allValues ps
  | .alias x _ => values x
  | .order x _ => values x
  | .pair x _ => values x
  | .plain v => [v]
  | .held x => values x

/-- The values that the terms of a list hold, in order. -/
def allValues : List Term → List Value
  | [] => []
  | x :: xs => values x ++ allValues xs

end

end Term

end RecordMapper
