import RecordMapper.Schema.Basic

/-! # Defining schemas

A definition gives the fields and the relationships. What it leaves open is filled in: an `id` as
primary key in front, the relation's name, and a field for the key of each schema belonged to. -/

namespace RecordMapper.Descriptor

/-- A field that holds a key. -/
def keyField (name : String) (primaryKey : Bool) : Field :=
  { name, kind := .id, virtual := false, default := .null, primaryKey }

/-- The name of the primary key, and the fields with the implicit one in front if none is
declared. -/
def withKey (schema : String) (fields : List Field) :
    Except SchemaError (String × List Field) :=
  match fields.filter (·.primaryKey) with
  | [] =>
    if fields.any (·.name == SchemaError.implicitKey) then .error (.implicitKeyTaken schema)
    else .ok (SchemaError.implicitKey, keyField SchemaError.implicitKey true :: fields)
  | [key] => .ok (key.name, fields)
  | keys => .error (.severalKeys schema (keys.map Field.name))

/-- Adds the fields that relationships need; `seen` holds the names of the relationships before. -/
def withForeignKeys (schema : String) (fields : List Field) (seen : List String) :
    List Relationship → Except SchemaError (List Field)
  | [] => .ok fields
  | r :: rs =>
    if r.name ∈ seen then .error (.duplicateRelationship schema r.name)
    else if fields.any (·.name == r.name) then .error (.relationshipClash schema r.name)
    else if r.kind = .belongsTo ∧ !fields.any (·.name == r.ownerKey) then
      withForeignKeys schema (fields ++ [keyField r.ownerKey false]) (r.name :: seen) rs
    else withForeignKeys schema fields (r.name :: seen) rs

/-- The schema that a definition gives. -/
def define (name : String) (fields : List Field) (relation : Option String)
    (relationships : List Relationship) : Except SchemaError Descriptor := do
  let (key, fields) ← withKey name fields
  let fields ← withForeignKeys name fields [] relationships
  of name (Relationship.orElse relation (Naming.defaultRelation name)) fields relationships key

end RecordMapper.Descriptor
