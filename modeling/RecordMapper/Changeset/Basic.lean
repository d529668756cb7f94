import RecordMapper.Entity
import RecordMapper.Store.Error
import RecordMapper.Text.Word

/-! # Changesets

A changeset holds proposed changes to an entity, with everything that was found wrong with them. -/

namespace RecordMapper

/-- Where an error of a field comes from: a cast to another kind, a validation, or the store. -/
inductive ErrorSource where
  | cast
  | validation
  | constraint
deriving DecidableEq, Repr

namespace ErrorSource

/-- The word for a source. -/
def name : ErrorSource → String
  | .cast => "cast"
  | .validation => "validation"
  | .constraint => "constraint"

/-- The source of a word. -/
def ofName? (s : String) : Option ErrorSource :=
  [cast, validation, constraint].find? (·.name == s)

end ErrorSource

/-- An error of a field, with the validation that found it. In the message a name between `%{` and a
closing brace stands for a detail. -/
structure FieldError where
  field : String
  message : String
  source : ErrorSource
  validation : Option String
  details : Row Value
deriving Repr

namespace FieldError

/-- Whether two lists of details are equal, up to the first that differ. -/
def sameDetails? : Row Value → Row Value → Option Bool
  | [], [] => some true
  | (k, v) :: r, (l, w) :: s =>
    if k = l then
      match Value.equal? v w with
      | some true => sameDetails? r s
      | answer => answer
    else some false
  | _, _ => some false

/-- Whether two errors are equal, if that can be said. -/
def same? (a b : FieldError) : Option Bool :=
  if a.field = b.field ∧ a.message = b.message ∧ a.source = b.source ∧ a.validation = b.validation
  then sameDetails? a.details b.details
  else some false

/-- Whether two errors are known to be equal. -/
def same (a b : FieldError) : Bool := same? a b == some true

/-- The name of a detail after `%{`, and the text after the closing brace. -/
def detailName? (cs : List Char) : Option (String × List Char) :=
  match cs.takeWhile Text.isWord, cs.dropWhile Text.isWord with
  | [], _ => none
  | name, '\x7d' :: rest => some (String.ofList name, rest)
  | _, _ => none

/-- Puts details into a message; `skip` characters in front are done. -/
def fill (details : Row Value) : Nat → List Char → List Char
  | _, [] => []
  | skip + 1, _ :: cs => fill details skip cs
  | 0, c :: cs =>
    match c, cs with
    | '%', '\x7b' :: body =>
      match detailName? body with
      | some (name, _) =>
        match details.find? name with
        | some v => v.plainText.toList ++ fill details (name.length + 2) cs
        | none => c :: fill details 0 cs
      | none => c :: fill details 0 cs
    | _, _ => c :: fill details 0 cs

/-- The message with the details put in. -/
def render (e : FieldError) : String := String.ofList (fill e.details 0 e.message.toList)

end FieldError

/-- A kind of constraint that a store enforces: no two records agree, a key leads to a record, or a
condition holds. -/
inductive ConstraintKind where
  | unique
  | foreignKey
  | check
deriving DecidableEq, Repr

namespace ConstraintKind

/-- The word for a kind of constraint. -/
def name : ConstraintKind → String
  | .unique => "unique"
  | .foreignKey => "foreign_key"
  | .check => "check"

end ConstraintKind

/-- A constraint that the store enforces and knows by name, and what to say about which field when
it is violated. -/
structure Constraint where
  kind : ConstraintKind
  field : String
  name : String
  message : String
deriving DecidableEq, Repr

namespace Constraint

/-- Whether a violation is one of this constraint: the names agree, and the kinds do if the store
says which it is. -/
def isViolatedBy (c : Constraint) (e : StorageError) : Bool :=
  e.isViolation && e.constraintName == some c.name &&
    (match e.constraintType with
     | none => true
     | some type => type == c.kind.name)

end Constraint

/-- What a changeset was submitted for. -/
inductive Action where
  | insert
  | update
  | delete
deriving DecidableEq, Repr

namespace Action

/-- The word for an action. -/
def name : Action → String
  | .insert => "insert"
  | .update => "update"
  | .delete => "delete"

/-- The action of a word. -/
def ofName? (s : String) : Option Action := [insert, update, delete].find? (·.name == s)

end Action

/-- Proposed changes to an entity: the new values by field, the input that was cast, what was found
wrong, the fields that casting was allowed to change and those that have to be there, the
validations by field, the constraints, and what it was last submitted for. -/
structure Changeset where
  data : Entity
  changes : Row Value
  params : Row Value
  errors : List FieldError
  castFields : List String
  required : List String
  validations : List (String × String)
  constraints : List Constraint
  action : Option Action

namespace Changeset

/-- No changes to an entity. -/
def start (e : Entity) : Changeset := ⟨e, [], [], [], [], [], [], [], none⟩

/-- The given changes to an entity, all of them to fields of its schema. -/
def ofChanges (e : Entity) (changes : Row Value) : Except LookupError Changeset :=
  match Entity.firstUnknown? e.schema changes with
  | some name => .error (.noField e.schema.name name)
  | none => .ok { start e with changes }

/-- The schema of the entity. -/
def schema (c : Changeset) : Descriptor := c.data.schema

/-- Whether nothing was found wrong. -/
def isValid (c : Changeset) : Bool := c.errors.isEmpty

/-- Whether something was found wrong with a field. -/
def hasErrorOn (c : Changeset) (field : String) : Bool := c.errors.any (·.field == field)

/-! ## Reading -/

/-- The new value of a field. -/
def change? (c : Changeset) (field : String) : Option Value := c.changes.find? field

/-- The new value of a field, unless there is none or it is `null`. -/
def presentChange? (c : Changeset) (field : String) : Option Value :=
  (c.change? field).filter fun v => !v.isNull

/-- The value that a field has in the entity. -/
def stored (c : Changeset) (field : String) : Value := c.data.getD field .null

/-- The value of a field after the changes; `other` where the entity has none. -/
def value (c : Changeset) (field : String) (other : Value) : Value :=
  match c.change? field with
  | some v => v
  | none => if (c.stored field).isNull then other else c.stored field

/-- The value of a field of the schema after the changes. -/
def get (c : Changeset) (field : String) (other : Value) : Except LookupError Value := do
  let _ ← c.schema.field field
  return c.value field other

/-- The value of a field of the schema after the changes, and whether it is a change. -/
def fetch (c : Changeset) (field : String) : Except LookupError (Bool × Value) := do
  let _ ← c.schema.field field
  match c.change? field with
  | some v => return (true, v)
  | none => return (false, c.stored field)

/-- The entity after the changes, whatever was found wrong. -/
def apply (c : Changeset) : Except EntityError Entity := c.data.apply c.changes

/-- Adds a message to those of a field. -/
def addMessage (groups : Row (List String)) (field message : String) : Row (List String) :=
  groups.insert field ((groups.find? field).getD [] ++ [message])

/-- The messages by field, in the order in which they came up. -/
def messages (c : Changeset) : Row (List String) :=
  c.errors.foldl (fun groups e => addMessage groups e.field e.render) []

/-- The messages about a field. -/
def messagesOn (c : Changeset) (field : String) : List String :=
  (c.errors.filter (·.field == field)).map FieldError.render

/-- The text of a changeset. -/
def text (c : Changeset) : String :=
  let name := c.schema.name
  let valid := (Value.bool c.isValid).exactText
  let changes := (Value.map c.changes).exactText
  let errors := (Value.list (c.errors.map fun e =>
    .tuple [.string e.field, .string e.message])).exactText
  s!"Changeset({name}, valid={valid}, changes={changes}, errors={errors})"

/-! ## Adding -/

/-- Adds an entry unless it is there. -/
def addOnce {α : Type} [BEq α] (xs : List α) (x : α) : List α :=
  if xs.contains x then xs else xs ++ [x]

/-- Adds an error unless an equal one is there. -/
def addError (c : Changeset) (e : FieldError) : Changeset :=
  if c.errors.any fun d => d.same e then c else { c with errors := c.errors ++ [e] }

/-- Notes that a validation was run. -/
def addValidation (c : Changeset) (field validation : String) : Changeset :=
  { c with validations := addOnce c.validations (field, validation) }

/-- Stages a new value, or takes a staged one away when the entity has it already. -/
def stage (c : Changeset) (field : String) (v : Value) : Except ComparisonError Changeset := do
  if ← Value.isEqual v (c.stored field) then return { c with changes := c.changes.erase field }
  else return { c with changes := c.changes.insert field v }

end Changeset

end RecordMapper
