import RecordMapper.Fragment
import RecordMapper.Query.Basic
import RecordMapper.Schema.Basic

/-! # Errors of compiling -/

namespace RecordMapper

/-- The part of a statement that a term stands in. -/
inductive Part where
  | select
  | join
  | where
  | groupBy
  | having
  | orderBy
  | fragment
  | updateAll
deriving DecidableEq, Repr

namespace Part

/-- The word for a part. -/
def word : Part → String
  | .select => "select"
  | .join => "join"
  | .where => "where"
  | .groupBy => "group_by"
  | .having => "having"
  | .orderBy => "order_by"
  | .fragment => "fragment"
  | .updateAll => "update_all"

/-- Whether functions of groups can stand in a part. -/
def allowsAggregates : Part → Bool
  | .select | .having | .orderBy => true
  | _ => false

end Part

/-- The name of the class of a value. -/
def Value.className : Value → String
  | .null => "NoneType"
  | .bool _ => "bool"
  | .int _ => "int"
  | .float _ => "float"
  | .decimal _ => "Decimal"
  | .string _ => "str"
  | .date _ => "date"
  | .time _ => "time"
  | .timestamp _ => "datetime"
  | .binary _ => "bytes"
  | .uuid _ => "UUID"
  | .list _ => "list"
  | .tuple _ => "tuple"
  | .map _ => "dict"

/-- The name of the class of what stands in the place of a term without being one. -/
def Term.className : Term → String
  | .plain v => v.className
  | .pair .. => "tuple"
  | _ => "OrderItem"

/-- A writing of many rows at once: they are removed, or changed. -/
inductive BulkOperation where
  | deleteAll
  | updateAll
deriving DecidableEq, Repr

/-- The word for a writing of many rows. -/
def BulkOperation.word : BulkOperation → String
  | .deleteAll => "delete_all"
  | .updateAll => "update_all"

/-- Why a query is not compiled. -/
inductive CompileError where
  | noSource (clause : String)
  | unknownClause (clause : String)
  | bindingTaken (binding : String)
  | unboundAssociation (binding : String)
  | noSchema (binding relationship : String)
  | lookup (e : LookupError)
  | noCondition (binding : String)
  | notBulk (operation : BulkOperation)
  | emptySelect
  | duplicateColumn (name : String)
  | unknownField (schema binding name : String)
  | virtualField (name schema : String)
  | unbound (binding : String) (part : Part)
  | unknownOperator (name : String)
  | nullComparison (part : Part)
  | unknownConnective (name : String)
  | unknownAggregate (name : String)
  | nestedAggregate (name : String)
  | misplacedAggregate (name : String) (part : Part)
  | emptyAggregate (name : String)
  | misplacedAlias (part : Part)
  | unknownTerm (className : String)
  | malformedFragment (raw : String) (e : OpenQuote)
  | slotMismatch (raw : String) (slots params : Nat)
  | nothingToSet
  | nothingToUpdate (schema : String)

namespace CompileError

/-- The text of the error. -/
def message : CompileError → String
  | .noSource clause => s!"Query must start from a source, got {clause}"
  | .unknownClause clause => s!"Unknown query node: {clause}"
  | .bindingTaken binding => s!"Binding '{binding}' is already defined"
  | .unboundAssociation binding => s!"Undefined binding '{binding}' in association join"
  | .noSchema binding relationship =>
    s!"Binding '{binding}' has no registered schema to follow '{relationship}' from"
  | .lookup e => e.message
  | .noCondition binding => s!"Join '{binding}' needs an 'on' condition"
  | .notBulk operation =>
    let word := operation.word
    s!"{word} only supports a single source with filters"
  | .emptySelect => "select() needs at least one expression"
  | .duplicateColumn name => s!"Duplicate output column '{name}' in select"
  | .unknownField schema binding name =>
    s!"Schema '{schema}' (binding '{binding}') has no field '{name}'"
  | .virtualField name schema => s!"Field '{name}' of schema '{schema}' is virtual and not stored"
  | .unbound binding part =>
    let word := part.word
    s!"Undefined binding '{binding}' in {word}"
  | .unknownOperator name => s!"Unknown operator '{name}'"
  | .nullComparison part =>
    let word := part.word
    s!"Comparing with None in {word}; use is_null() / is_not_null()"
  | .unknownConnective name => s!"Unknown boolean operator '{name}'"
  | .unknownAggregate name => s!"Unknown aggregate '{name}'"
  | .nestedAggregate name => s!"Aggregate {name}() cannot be nested in another aggregate"
  | .misplacedAggregate name part =>
    let word := part.word
    s!"Aggregate {name}() is not allowed in {word}; use select() or having()"
  | .emptyAggregate name => s!"{name}() needs an expression"
  | .misplacedAlias part =>
    let word := part.word
    s!"Aliases are only allowed in select, not in {word}"
  | .unknownTerm className => s!"Unknown expression: {className}"
  | .malformedFragment raw e =>
    let shown := (Value.string raw).exactText
    let reason := e.message
    s!"Malformed fragment {shown}: {reason}"
  | .slotMismatch raw slots params =>
    let shown := (Value.string raw).exactText
    s!"Fragment {shown} has {slots} placeholder(s) but {params} parameter(s)"
  | .nothingToSet => "update_all needs at least one field to set"
  | .nothingToUpdate schema => s!"Nothing to update for schema '{schema}'"

end CompileError

end RecordMapper
