import RecordMapper.Query.Basic
import RecordMapper.Proofs.Query.Nodes

/-! # Clauses by kind

What the clauses of a query say about one part of the statement, in the order in which they were
added. Where only the last of them counts, that one. -/

namespace RecordMapper

namespace Clause

/-- Whether the clause joins another relation. -/
def isJoin : Clause → Bool
  | .join .. => true
  | _ => false

/-- The condition that was given with a join. -/
def onTerm? : Clause → Option Term
  | .join _ _ on _ => on
  | _ => none

theorem onTerm?_eq_none {c : Clause} (h : c.isJoin = false) : c.onTerm? = none := by
  cases c with
  | join => simp [isJoin] at h
  | _ => rfl

/-- A condition on rows and how it is joined to the ones before. -/
def rowFilter? : Clause → Option (Connective × Term)
  | .filter t false op => some (op, t)
  | _ => none

/-- A condition on groups and how it is joined to the ones before. -/
def groupFilter? : Clause → Option (Connective × Term)
  | .filter t true op => some (op, t)
  | _ => none

/-- What is put out. -/
def selected? : Clause → Option (List Term)
  | .select ts => some ts
  | _ => none

/-- Whether no row comes twice. -/
def isDistinct : Clause → Bool
  | .distinct => true
  | _ => false

/-- What rows are grouped by. -/
def grouped : Clause → List Term
  | .groupBy ts => ts
  | _ => []

/-- What rows are sorted by. -/
def ordered : Clause → List (Term × Direction)
  | .orderBy items => items
  | _ => []

/-- How many rows at most. -/
def limit? : Clause → Option Int
  | .limit n => some n
  | _ => none

/-- How many rows are passed over. -/
def offset? : Clause → Option Int
  | .offset n => some n
  | _ => none

/-- What stands at the end. -/
def ending? : Clause → Option (String × List Term)
  | .fragment raw params => some (raw, params)
  | _ => none

end Clause

namespace Query

variable (q : Query)

/-- The conditions that were given with joins. -/
def joinTerms : List Term := q.rest.filterMap Clause.onTerm?

/-- The conditions on rows, each with how it is joined to the ones before. -/
def rowFilters : List (Connective × Term) := q.rest.filterMap Clause.rowFilter?

/-- The conditions on groups, each with how it is joined to the ones before. -/
def groupFilters : List (Connective × Term) := q.rest.filterMap Clause.groupFilter?

/-- What the last selection puts out. -/
def lastSelect : Option (List Term) := (q.rest.filterMap Clause.selected?).getLast?

/-- Whether no row comes twice. -/
def isDistinct : Bool := q.rest.any Clause.isDistinct

/-- What rows are grouped by. -/
def grouped : List Term := q.rest.flatMap Clause.grouped

/-- What rows are sorted by. -/
def ordered : List (Term × Direction) := q.rest.flatMap Clause.ordered

/-- The last limit on the number of rows. -/
def lastLimit : Option Int := (q.rest.filterMap Clause.limit?).getLast?

/-- The last number of rows that are passed over. -/
def lastOffset : Option Int := (q.rest.filterMap Clause.offset?).getLast?

/-- What stands at the end. -/
def endings : List (String × List Term) := q.rest.filterMap Clause.ending?

end Query

end RecordMapper
