import RecordMapper.Proofs.Query.Clauses
import RecordMapper.Proofs.Sql.Plan
import RecordMapper.Sql.Select

/-! # Well-formed queries

What a query has to be so that a statement reads its rows. Nothing here invokes the compiler: a term
is judged node by node, by what is bound where it stands. -/

namespace RecordMapper

/-- What is bound has a stored field of the name, or is no schema and has any. -/
def Bound.HasField (b : Bound) (name : String) : Prop :=
  ∀ schema, b.schema = some schema → ∃ f, schema.find? name = some f ∧ f.virtual = false

namespace Term

/-- Whether the term is a function of groups. -/
def isAggregate : Term → Bool
  | .aggregate .. => true
  | _ => false

/-- What a node has to be where it stands, whatever the nodes below it are, but that there is no
function of groups below another one. -/
def FitsAt (s : Scope) : Term → Prop
  | .field binding name => ∃ b, Plan.lookUp s.bindings binding = some b ∧ b.HasField name
  | .literal _ => True
  | .held _ => True
  | .binary op l r =>
    op ∈ Operator.all ∧
      (op.isComparison = true → l.isNullLiteral = false ∧ r.isNullLiteral = false)
  | .connected op _ => op = .and ∨ op = .or
  | .not _ => True
  | .isNull .. => True
  | .inList .. => True
  | .aggregate f none _ => f = .count ∧ s.part.allowsAggregates = true
  | .aggregate f (some t) _ =>
    f ∈ [.count, .sum, .avg, .min, .max] ∧ s.part.allowsAggregates = true ∧
      ∀ u ∈ t.nodes, u.isAggregate = false
  | .fragment raw ps =>
    ∃ parts, Fragment.split raw = .ok parts ∧ Fragment.slotCount parts = ps.length
  | .alias .. => False
  | .order .. => False
  | .pair .. => False
  | .plain _ => False

/-- A term is allowed where each of its nodes is. -/
def AllowedAt (s : Scope) (t : Term) : Prop := ∀ u ∈ t.nodes, u.FitsAt s

end Term

namespace Column

/-- The names of columns, the first of them at a position, `used` being the names before. -/
def names (used : List String) (position : Nat) : List Term → List String
  | [] => []
  | t :: ts =>
    let name := (nameOf used position t).1
    name :: names (name :: used) (position + 1) ts

end Column

/-- A query of a source is well formed with its joins. No name is bound twice, every join has a
condition or a relationship of a schema that is bound before it, and no two columns have one name.
Each term is allowed where it stands, and the condition of a join with what is bound up to it.
Conditions are joined by words of the language. -/
structure Query.WellFormed (registry : Option Registry) (q : Query) (source : Bound)
    (js : List PlannedJoin) : Prop where
  distinct : (source.name :: js.map fun j => j.joined.name).Nodup
  joined : Plan.Joined registry [source] q.rest js
  selected : ∀ ts, q.lastSelect = some ts → ts ≠ [] ∧ (Column.names [] 1 ts).Nodup
  select : ∀ ts, q.lastSelect = some ts → ∀ t ∈ ts,
    (Column.termOf t).AllowedAt ⟨source :: js.map PlannedJoin.joined, .select⟩
  on : ∀ j ∈ js, j.condition.AllowedAt ⟨j.visible, .join⟩
  rows : ∀ f ∈ q.rowFilters, f.2.AllowedAt ⟨source :: js.map PlannedJoin.joined, .where⟩
  rowWords : ∀ f ∈ q.rowFilters.tail, f.1 = .and ∨ f.1 = .or
  grouped : ∀ t ∈ q.grouped, t.AllowedAt ⟨source :: js.map PlannedJoin.joined, .groupBy⟩
  groups : ∀ f ∈ q.groupFilters, f.2.AllowedAt ⟨source :: js.map PlannedJoin.joined, .having⟩
  groupWords : ∀ f ∈ q.groupFilters.tail, f.1 = .and ∨ f.1 = .or
  ordered : ∀ x ∈ q.ordered, x.1.AllowedAt ⟨source :: js.map PlannedJoin.joined, .orderBy⟩
  endings : ∀ f ∈ q.endings,
    (Term.fragment f.1 f.2).AllowedAt ⟨source :: js.map PlannedJoin.joined, .fragment⟩

end RecordMapper
