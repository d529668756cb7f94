import RecordMapper.Schema.Basic

/-! # Registries

The schemas of a program are kept in two tables, both in the order of registration: one gives the
schema of a name, the other the name that a relation is mapped to. A schema is registered when
neither its name nor its relation is taken. -/

namespace RecordMapper

/-- The registered schemas by name, and by relation the names of the schemas that are mapped to
it. -/
structure Registry where
  byName : Row Descriptor
  byRelation : Row String

namespace Registry

/-- No schemas. -/
def empty : Registry := ⟨[], []⟩

instance : Inhabited Registry := ⟨empty⟩

/-- The names in order of registration. -/
def names (r : Registry) : List String := r.byName.keys

/-- The relations in order of registration. -/
def relations (r : Registry) : List String := r.byRelation.keys

/-- The schemas in order of registration. -/
def schemas (r : Registry) : List Descriptor := r.byName.map Prod.snd

/-- The names that another registry does not have, in order. -/
def namesSince (r before : Registry) : List String :=
  r.names.filter fun n => !before.names.contains n

/-- The schema of a name. -/
def find? (r : Registry) (name : String) : Option Descriptor := r.byName.find? name

/-- The schema of a name, or the error that there is none. -/
def get (r : Registry) (name : String) : Except LookupError Descriptor :=
  match r.find? name with
  | some d => .ok d
  | none => .error (.noSchema name)

/-- The schema of a relation, by way of its name. It is an error if there is no schema of that
name. -/
def forRelation (r : Registry) (relation : String) : Except LookupError (Option Descriptor) :=
  match r.byRelation.find? relation with
  | none => .ok none
  | some name =>
    match r.find? name with
    | some d => .ok (some d)
    | none => .error (.noEntry name)

/-- The schema of a name or else of a relation. -/
def resolve (r : Registry) (nameOrRelation : String) : Except LookupError (Option Descriptor) :=
  match r.find? nameOrRelation with
  | some d => .ok (some d)
  | none => r.forRelation nameOrRelation

/-- The schema of a name or else of a relation, none also where the tables disagree. -/
def resolve? (r : Registry) (nameOrRelation : String) : Option Descriptor :=
  (r.resolve nameOrRelation).toOption.join

/-- Adds a schema to both tables if its name and its relation are free. -/
def register (r : Registry) (d : Descriptor) : Except SchemaError Registry :=
  match r.find? d.name with
  | some _ => .error (.schemaTaken d.name)
  | none =>
    match r.byRelation.find? d.relation with
    | some owner => .error (.relationTaken d.relation owner)
    | none =>
      .ok
        { byName := r.byName.insert d.name d
          byRelation := r.byRelation.insert d.relation d.name }

/-- The other one of two schemas that are joined, and the fields of the owner and of the other one
that are matched. -/
structure Joint where
  related : Descriptor
  ownerKey : String
  relatedKey : String

/-- What a relationship of a schema leads to. -/
def joint (r : Registry) (owner : Descriptor) (name : String) : Except LookupError Joint :=
  match owner.relationship? name with
  | none => .error (.noRelationship owner.name name)
  | some rel => do
    let related ← r.get rel.related
    let relatedKey := Relationship.orElse rel.relatedKey related.primaryKey
    let _ ← owner.field rel.ownerKey
    let _ ← related.field relatedKey
    return ⟨related, rel.ownerKey, relatedKey⟩

end Registry

end RecordMapper
