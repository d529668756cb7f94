import RecordMapper.Schema.Registry
import RecordMapper.Cast

/-! # Entities

An entity is one record of a schema at one moment: a value for every field, and where it comes
from. -/

namespace RecordMapper

/-- Where an entity comes from: it was made here and never stored, it was read from the store or
written to it, it was removed from the store, or a value stands in place of all that. -/
inductive Origin where
  | built
  | loaded
  | deleted
  | other (v : Value)
deriving Repr

namespace Origin

/-- The word for an origin. A value in its place has none. -/
def name? : Origin → Option String
  | .built => some "built"
  | .loaded => some "loaded"
  | .deleted => some "deleted"
  | .other _ => none

/-- The origin of a word. -/
def ofName? (s : String) : Option Origin := [built, loaded, deleted].find? (·.name? == some s)

/-- Whether two origins are equal, if that can be said. -/
def equal? : Origin → Origin → Option Bool
  | .other v, .other w => Value.equal? v w
  | o, p => some (o.name? == p.name?)

/-- What is shown of an origin: its word, or the value in its place. -/
def shown : Origin → Value
  | .built => .string "built"
  | .loaded => .string "loaded"
  | .deleted => .string "deleted"
  | .other v => v

end Origin

/-- Why there is no such entity: there is no such schema or field, or a value is given under a name
that is taken. -/
inductive EntityError where
  | lookup (e : LookupError)
  | reserved (name : String)

/-- A record of a schema: the values that were given to fields, all other fields having their
defaults, and where it comes from. -/
structure Entity where
  schema : Descriptor
  given : Row Value
  origin : Origin

namespace Entity

/-- The value of every field, in the order of the fields. -/
def values (e : Entity) : Row Value := e.schema.defaults.overlay e.given

/-- The first name of a row that is no field of the schema. -/
def firstUnknown? (schema : Descriptor) (values : Row Value) : Option String :=
  values.keys.find? fun name => !schema.hasField name

/-- The entity with the given values, all others being the defaults. -/
def of (schema : Descriptor) (values : Row Value) (origin : Origin) : Except LookupError Entity :=
  match firstUnknown? schema values with
  | some name => .error (.noField schema.name name)
  | none => .ok ⟨schema, values, origin⟩

/-- The first of some names that has a value. -/
def firstReserved? (names : List String) (values : Row Value) : Option String :=
  names.find? values.has

/-- A new entity. Two names are taken for the parts of the request. -/
def build (schema : Descriptor) (values : Row Value) : Except EntityError Entity :=
  match firstReserved? ["cls", "descriptor"] values with
  | some name => .error (.reserved name)
  | none => (of schema values .built).mapError .lookup

/-- A new entity of a registered schema. Two more names are taken, and that before the schema is
looked up. -/
def create (r : Registry) (schema : String) (values : Row Value) : Except EntityError Entity :=
  match firstReserved? ["self", "name"] values with
  | some name => .error (.reserved name)
  | none => do
    let d ← (r.get schema).mapError .lookup
    build d values

/-- The values that a row of the store has for fields, read back. -/
def loadFields (row : Row Value) : List Field → Except CastError (Row Value)
  | [] => .ok []
  | f :: fs =>
    match row.find? f.name with
    | none => loadFields row fs
    | some stored => do
      let v ← f.kind.load stored
      let rest ← loadFields row fs
      return (f.name, v) :: rest

/-- The entity of a row of the store. Columns that are no fields are left out, and fields without a
column have their defaults. -/
def load (schema : Descriptor) (row : Row Value) : Except CastError Entity := do
  let values ← loadFields row schema.fields
  return ⟨schema, values, .loaded⟩

/-- The value of a field. -/
def find? (e : Entity) (name : String) : Option Value := e.values.find? name

/-- The value of a field, or another one when there is no such field. -/
def getD (e : Entity) (name : String) (other : Value) : Value := (e.find? name).getD other

/-- The value of a field, or the error that there is none. -/
def get (e : Entity) (name : String) : Except LookupError Value :=
  match e.find? name with
  | some v => .ok v
  | none => .error (.noField e.schema.name name)

/-- The value of the primary key. -/
def key (e : Entity) : Value := e.getD e.schema.primaryKey .null

/-- Whether the entity is in the store. -/
def isStored (e : Entity) : Bool :=
  match e.origin with
  | .loaded => true
  | _ => false

/-- What reads as an attribute: what the entity says of itself, and otherwise a field whose name
does not begin with an underscore. -/
def attribute? (e : Entity) (name : String) : Option Value :=
  if name = "schema_name" then some (.string e.schema.name)
  else if name = "primary_key" then some e.key
  else if name = "persisted" then some (.bool e.isStored)
  else if name = "state" then some e.origin.shown
  else if name = "values" then some (.map e.values)
  else if name.toList.head? = some '_' then none
  else e.find? name

/-- The name by which a change is one of the origin and not of a field. -/
def originName : String := "state"

/-- The entity with some values and maybe its origin changed. Two names are taken for the parts of
the request. -/
def replace (e : Entity) (changes : Row Value) (origin : Option Origin) :
    Except EntityError Entity :=
  match firstReserved? ["self", originName] changes with
  | some name => .error (.reserved name)
  | none => (of e.schema (e.given.overlay changes) (origin.getD e.origin)).mapError .lookup

/-- The origin of an entity after changes. A change under the name of the origin is put in its
place, and `null` keeps the one that is there. -/
def changedOrigin (e : Entity) (changes : Row Value) : Origin :=
  match changes.find? originName with
  | none | some .null => e.origin
  | some v => .other v

/-- The entity with changes. One name is taken for the entity itself, and a change of the origin
changes no value. -/
def apply (e : Entity) (changes : Row Value) : Except EntityError Entity :=
  match firstReserved? ["self"] changes with
  | some name => .error (.reserved name)
  | none =>
    (of e.schema (e.given.overlay (changes.erase originName)) (e.changedOrigin changes)).mapError
      .lookup

/-- The values by field, those of fields that are not stored only on demand. -/
def toRow (e : Entity) (withVirtual : Bool) : Row Value :=
  (e.schema.fields.filter fun f => withVirtual || !f.virtual).map fun f =>
    (f.name, e.getD f.name .null)

/-- Whether two entities of one schema have equal values in fields. A default is equal to itself,
even where it is a NaN. -/
def sameFields? (e f : Entity) : List Field → Option Bool
  | [] => some true
  | field :: fields =>
    match e.given.find? field.name, f.given.find? field.name with
    | none, none => sameFields? e f fields
    | _, _ =>
      match Value.equal? (e.getD field.name .null) (f.getD field.name .null) with
      | some true => sameFields? e f fields
      | answer => answer

/-- Whether two entities of one registry are equal, if that can be said. -/
def same? (e f : Entity) : Option Bool :=
  if e.schema.name = f.schema.name then
    match sameFields? e f e.schema.fields with
    | some true => e.origin.equal? f.origin
    | answer => answer
  else some false

/-- The text of an entity: its schema, its key and where it comes from. There is none if that has no
word. -/
def text? (e : Entity) : Option String :=
  e.origin.name?.map fun origin =>
    let schema := (Value.string e.schema.name).exactText
    let keyName := e.schema.primaryKey
    let key := e.key.exactText
    s!"Entity({schema}, {keyName}={key}, {origin})"

end Entity

end RecordMapper
