import RecordMapper.Kind
import RecordMapper.Naming
import RecordMapper.Value.Text

/-! # Schemas

A schema gives a relation its fields, its primary key and its relationships to other schemas. -/

namespace RecordMapper

/-- A field of a schema. One that is virtual is left out of the relation. -/
structure Field where
  name : String
  kind : Kind
  virtual : Bool
  default : Value
  primaryKey : Bool
deriving Repr, Inhabited

/-- How two schemas are related: the owner holds the key of the other one, or at most one record of
the other schema holds the key of the owner, or any number of them do. -/
inductive RelationshipKind where
  | belongsTo
  | hasOne
  | hasMany
deriving DecidableEq, Repr

namespace RelationshipKind

/-- The word for a kind of relationship. -/
def name : RelationshipKind → String
  | .belongsTo => "belongs_to"
  | .hasOne => "has_one"
  | .hasMany => "has_many"

/-- The kind of relationship of a word. -/
def ofName? (s : String) : Option RelationshipKind :=
  [belongsTo, hasOne, hasMany].find? (·.name == s)

end RelationshipKind

/-- A relationship from the schema that declares it, the owner, to another schema. The key of the
owner is matched with that of the other schema, which is its primary key if none is given. -/
structure Relationship where
  kind : RelationshipKind
  name : String
  related : String
  ownerKey : String
  relatedKey : Option String
deriving DecidableEq, Repr

namespace Relationship

/-- The text, or another one in place of none or an empty text. -/
def orElse (given : Option String) (other : String) : String :=
  match given with
  | some s => if s = "" then other else s
  | none => other

/-- The owner holds the key of the other schema in a field named after the relationship. -/
def belongsTo (name related : String) (foreignKey : Option String) : Relationship :=
  { kind := .belongsTo
    name
    related
    ownerKey := orElse foreignKey s!"{name}_id"
    relatedKey := none }

/-- The other schema holds the key of the owner in a field named after the owner. -/
def has (kind : RelationshipKind) (name related owner : String) (foreignKey : Option String)
    (ownerKey : String) : Relationship :=
  { kind
    name
    related
    ownerKey
    relatedKey := some (orElse foreignKey (Naming.snakeCase owner ++ "_id")) }

end Relationship

/-- Something that was looked up by name and is not there: a schema, a relationship or a field of
one, or an entry of a table. -/
inductive LookupError where
  | noSchema (name : String)
  | noRelationship (schema name : String)
  | noField (schema name : String)
  | noEntry (name : String)
deriving DecidableEq, Repr

namespace LookupError

/-- The text of the error. -/
def message : LookupError → String
  | .noSchema name => s!"Schema '{name}' not found"
  | .noRelationship schema name => s!"Schema '{schema}' has no relationship '{name}'"
  | .noField schema name => s!"Field '{name}' not found in schema '{schema}'"
  | .noEntry name => s!"'{name}'"

end LookupError

/-- Why a schema is refused. -/
inductive SchemaError where
  | duplicateField (schema field : String)
  | keyNotField (schema key : String)
  | severalKeys (schema : String) (fields : List String)
  | implicitKeyTaken (schema : String)
  | duplicateRelationship (schema name : String)
  | relationshipClash (schema name : String)
  | schemaTaken (schema : String)
  | relationTaken (relation owner : String)
  | unknownKind (schema kind field : String) (line : Nat)
  | badDefault (schema : String) (default : Value) (kind : Kind) (field : String)
  | unresolved (schema relationship : String) (cause : LookupError)

namespace SchemaError

/-- The name of the implicit primary key. -/
def implicitKey : String := "id"

/-- The text of the error. -/
def message : SchemaError → String
  | .duplicateField schema field => s!"Schema '{schema}': duplicate field '{field}'"
  | .keyNotField schema key => s!"Schema '{schema}': primary key '{key}' is not a field"
  | .severalKeys schema fields =>
    let names := String.intercalate ", " fields
    s!"Schema '{schema}': multiple primary keys ({names})"
  | .implicitKeyTaken schema =>
    s!"Schema '{schema}': field '{implicitKey}' must be declared primary_key"
  | .duplicateRelationship schema name => s!"Schema '{schema}': duplicate relationship '{name}'"
  | .relationshipClash schema name =>
    s!"Schema '{schema}': relationship '{name}' clashes with a field"
  | .schemaTaken schema => s!"Schema '{schema}' is already defined"
  | .relationTaken relation owner =>
    s!"Relation '{relation}' is already mapped by schema '{owner}'"
  | .unknownKind schema kind field line =>
    s!"Schema '{schema}': unknown kind '{kind}' for field '{field}' (line {line})"
  | .badDefault schema default kind field =>
    let text := default.exactText
    let kindName := kind.name
    s!"Schema '{schema}': default {text} is not a valid {kindName} for field '{field}'"
  | .unresolved schema relationship cause =>
    let reason := cause.message
    s!"Schema '{schema}': cannot resolve relationship '{relationship}': {reason}"

end SchemaError

/-- A schema whose field names differ and whose primary key is one of its fields. -/
structure Descriptor where
  name : String
  relation : String
  fields : List Field
  relationships : List Relationship
  primaryKey : String
  names_nodup : (fields.map Field.name).Nodup
  primaryKey_mem : primaryKey ∈ fields.map Field.name

namespace Descriptor

/-- The first name that another field before has, `seen` being names of earlier fields. -/
def firstRepeated (seen : List String) : List String → Option String
  | [] => none
  | n :: ns => if n ∈ seen then some n else firstRepeated (n :: seen) ns

/-- The schema of the given parts, if its field names differ and its primary key is a field. -/
def of (name relation : String) (fields : List Field) (relationships : List Relationship)
    (primaryKey : String) : Except SchemaError Descriptor :=
  if names : (fields.map Field.name).Nodup then
    if key : primaryKey ∈ fields.map Field.name then
      .ok ⟨name, relation, fields, relationships, primaryKey, names, key⟩
    else .error (.keyNotField name primaryKey)
  else .error (.duplicateField name ((firstRepeated [] (fields.map Field.name)).getD ""))

/-- The field of a name. -/
def find? (d : Descriptor) (name : String) : Option Field := d.fields.find? (·.name == name)

/-- The field of a name, or the error that there is none. -/
def field (d : Descriptor) (name : String) : Except LookupError Field :=
  match d.find? name with
  | some f => .ok f
  | none => .error (.noField d.name name)

/-- Whether the schema has a field of the name. -/
def hasField (d : Descriptor) (name : String) : Bool := d.fields.any (·.name == name)

/-- The names of the fields in order. -/
def fieldNames (d : Descriptor) : List String := d.fields.map Field.name

/-- The fields of the relation, in order. -/
def stored (d : Descriptor) : List Field := d.fields.filter fun f => !f.virtual

/-- The first relationship of a name. -/
def relationship? (d : Descriptor) (name : String) : Option Relationship :=
  d.relationships.find? (·.name == name)

/-- The values of a new record. -/
def defaults (d : Descriptor) : Row Value := d.fields.map fun f => (f.name, f.default)

end Descriptor

end RecordMapper
