import RecordMapper.Query.Builder

/-! # Queries

A query is a chain of clauses. Nothing is checked until the query is compiled, so that a part of one
can be shared and extended in several ways. -/

namespace RecordMapper

/-- What is joined: a relation or a schema by name, or what a relationship of the schema bound to a
name leads to. -/
inductive JoinTarget where
  | relation (name : String)
  | association (binding relationship : String)
deriving DecidableEq, Repr

/-- A kind of join: rows on both sides only, or all rows on the left side. -/
inductive JoinKind where
  | inner
  | left
deriving DecidableEq, Repr

namespace JoinKind

/-- The word for a kind of join. -/
def word : JoinKind → String
  | .inner => "inner"
  | .left => "left"

/-- The kind of join of a word. -/
def ofWord? (s : String) : Option JoinKind :=
  if s = "inner" then some .inner else if s = "left" then some .left else none

end JoinKind

/-- A clause of a query. A condition is joined to the ones before by its connective, and a fragment
is a piece of the statement language at the end. -/
inductive Clause where
  | source (name binding : String)
  | join (target : JoinTarget) (binding : String) (on : Option Term) (kind : JoinKind)
  | filter (condition : Term) (onGroups : Bool) (op : Connective)
  | select (terms : List Term)
  | distinct
  | groupBy (terms : List Term)
  | orderBy (items : List (Term × Direction))
  | limit (count : Int)
  | offset (count : Int)
  | fragment (raw : String) (params : List Term)
deriving Repr, Inhabited

namespace Clause

/-- The name of a clause. -/
def className : Clause → String
  | .source .. => "Source"
  | .join .. => "Join"
  | .filter .. => "Filter"
  | .select _ => "Projection"
  | .distinct => "Distinct"
  | .groupBy _ => "GroupBy"
  | .orderBy _ => "OrderBy"
  | .limit _ => "Limit"
  | .offset _ => "Offset"
  | .fragment .. => "Fragment"

/-- Whether the clause names the relation that the query begins with. -/
def isSource : Clause → Bool
  | .source .. => true
  | _ => false

/-- A term to sort by, for each of a list. -/
def orderTerms (items : List (Term × Direction)) : List Term := items.map fun x => .order x.1 x.2

/-- Whether two terms that may be missing are the same. -/
def sameOption? : Option Term → Option Term → Option Bool
  | none, none => some true
  | some x, some y => Term.same? x y
  | _, _ => some false

/-- Whether two clauses are the same, if that can be said. -/
def same? : Clause → Clause → Option Bool
  | .source n b, .source m c => some (n == m && b == c)
  | .join t b on k, .join u c on' l =>
    if t = u ∧ b = c then Term.both? (sameOption? on on') (some (k == l)) else some false
  | .filter x g o, .filter y h p => Term.both? (Term.same? x y) (some (g == h && o == p))
  | .select xs, .select ys => Term.sameLists? xs ys
  | .distinct, .distinct => some true
  | .groupBy xs, .groupBy ys => Term.sameLists? xs ys
  | .orderBy xs, .orderBy ys => Term.sameLists? (orderTerms xs) (orderTerms ys)
  | .limit m, .limit n => some (m == n)
  | .offset m, .offset n => some (m == n)
  | .fragment r ps, .fragment s qs => if r = s then Term.sameParams? ps qs else some false
  | _, _ => some false

/-- The values that a clause holds, in order. -/
def values : Clause → List Value
  | .join _ _ on _ => (on.map Term.values).getD []
  | .filter x _ _ => x.values
  | .select xs => Term.allValues xs
  | .groupBy xs => Term.allValues xs
  | .orderBy xs => Term.allValues (xs.map Prod.fst)
  | .fragment _ ps => Term.allValues ps
  | _ => []

end Clause

/-- A query: its first clause, and the other ones in order. -/
structure Query where
  root : Clause
  rest : List Clause
deriving Repr, Inhabited

namespace Query

/-- All clauses in order. -/
def clauses (q : Query) : List Clause := q.root :: q.rest

/-- Whether two lists of clauses, the last clause first, are the same, up to the first that differ.
A source is compared before the clauses that it follows, any other clause after them. -/
def sameClauses? : List Clause → List Clause → Option Bool
  | [], [] => some true
  | x :: xs, y :: ys =>
    if x.isSource then Term.both? (x.same? y) (sameClauses? xs ys)
    else Term.both? (sameClauses? xs ys) (x.same? y)
  | _, _ => some false

/-- The names of the clauses in order. -/
def shape (q : Query) : List String := q.clauses.map Clause.className

/-- Whether two queries are built in the same way, if that can be said. Nothing is compared between
queries that are not made up of the same clauses. -/
def same? (q r : Query) : Option Bool :=
  if q.shape = r.shape then sameClauses? q.clauses.reverse r.clauses.reverse else some false

/-- Whether two queries are known to be built in the same way. -/
def same (q r : Query) : Bool := q.same? r == some true

/-- The values that a query holds, in order. -/
def values (q : Query) : List Value := q.clauses.flatMap Clause.values

/-- A query with one more clause. -/
def add (q : Query) (c : Clause) : Query := { q with rest := q.rest ++ [c] }

/-- The text, or another one in place of none or an empty one. -/
def bindingOr (given : Option String) (other : String) : String :=
  match given with
  | some s => if s = "" then other else s
  | none => other

/-- A query of a relation or a schema; unless a binding is given, it is bound to `name`. -/
def source (source name : String) (binding : Option String) : Query :=
  ⟨.source source (bindingOr binding name), []⟩

/-- Adds a condition on rows that holds together with the ones before, or a choice between it and
them. -/
def filter (q : Query) (conditions : List Term) (op : Connective) : Built Query := do
  let t ← Term.connect .and conditions
  return q.add (.filter t false op)

/-- Adds a condition on groups. -/
def having (q : Query) (conditions : List Term) : Built Query := do
  let t ← Term.connect .and conditions
  return q.add (.filter t true .and)

/-- Adds a join. -/
def join (q : Query) (target : JoinTarget) (binding : String) (on : Option Term)
    (kind : String) : Built Query :=
  match JoinKind.ofWord? kind with
  | some k => .ok (q.add (.join target binding on k))
  | none => .error (.badJoin kind)

/-- Sets what is put out. -/
def select (q : Query) (terms : List Term) : Built Query := do
  let ts ← terms.mapM Term.pathOrTerm
  return q.add (.select ts)

/-- Drops rows that are there already. -/
def distinct (q : Query) : Query := q.add .distinct

/-- Groups rows. -/
def groupBy (q : Query) (terms : List Term) : Built Query := do
  let ts ← terms.mapM Term.pathOrTerm
  return q.add (.groupBy ts)

/-- Sorts rows, by earlier terms first. -/
def orderBy (q : Query) (terms : List Term) : Built Query := do
  let ts ← terms.mapM Term.toOrder
  return q.add (.orderBy ts)

/-- A number of rows. -/
def rowCount (what : String) : Value → Built Int
  | .int i => if i < 0 then .error (.badCount what (.int i)) else .ok i
  | v => .error (.badCount what v)

/-- Limits the number of rows. -/
def limit (q : Query) (count : Value) : Built Query := do
  let n ← rowCount "limit" count
  return q.add (.limit n)

/-- Passes over rows. -/
def offset (q : Query) (count : Value) : Built Query := do
  let n ← rowCount "offset" count
  return q.add (.offset n)

/-- Adds a piece of the statement language at the end. -/
def fragment (q : Query) (raw : String) (params : List Term) : Query :=
  q.add (.fragment raw params)

end Query

end RecordMapper
