import RecordMapper.Cast
import RecordMapper.Schema.Define
import RecordMapper.Schema.Grammar
import RecordMapper.Schema.Lexer
import RecordMapper.Schema.Registry

/-! # From schema texts to registries

The declarations of a text are resolved to schemas, all of them before the first one is registered;
their relationships are checked when all are registered, so that they may point forward. -/

namespace RecordMapper

/-- Why a schema text is refused: a part of it is no token, the tokens are no schema text, a default
is of the right form and cannot be converted, or a schema is refused. -/
inductive SchemaTextError where
  | lex (e : LexError)
  | grammar (e : GrammarError)
  | cast (e : CastError)
  | schema (e : SchemaError)

namespace Declaration

/-- Reads the declarations of a text. An error of the grammar at a token comes before an error of
reading behind it. -/
def ofText (text : String) : Except SchemaTextError (List Declaration) :=
  match Token.scan text with
  | (tokens, stop) =>
    match ofTokens tokens, stop with
    | .error (.unexpected t), _ => .error (.grammar (.unexpected t))
    | _, some e => .error (.lex e)
    | .error e, none => .error (.grammar e)
    | .ok ds, none => .ok ds

end Declaration

namespace FieldDeclaration

/-- The field that a declaration gives: its kind is known and its default is cast to it. -/
def resolve (schema : String) (d : FieldDeclaration) : Except SchemaTextError Field :=
  match Kind.ofName? d.kind with
  | none => .error (.schema (.unknownKind schema d.kind d.name d.line))
  | some kind =>
    match kind.cast d.default.value with
    | .ok v =>
      .ok { name := d.name, kind, virtual := d.virtual, default := v, primaryKey := d.primaryKey }
    | .error .mismatch => .error (.schema (.badDefault schema d.default.value kind d.name))
    | .error e => .error (.cast e)

end FieldDeclaration

namespace Declaration

/-- The names of the fields that `timestamps` stands for. -/
def timestampNames : List String := ["inserted_at", "updated_at"]

/-- The fields that a member gives. -/
def memberFields (schema : String) : Member → Except SchemaTextError (List Field)
  | .field d => (d.resolve schema).map ([·])
  | .timestamps =>
    .ok (timestampNames.map fun name =>
      { name, kind := .timestamp, virtual := false, default := .null, primaryKey := false })
  | .relationship _ => .ok []

/-- The fields that the members give. -/
def fields (schema : String) : List Member → Except SchemaTextError (List Field)
  | [] => .ok []
  | m :: ms => do
    let front ← memberFields schema m
    let rest ← fields schema ms
    return front ++ rest

/-- The name of the first field that is marked as the primary key. -/
def keyName (members : List Member) : String :=
  (members.findSome? fun
    | .field d => if d.primaryKey then some d.name else none
    | _ => none).getD SchemaError.implicitKey

/-- The relationship that a declaration gives. -/
def relationship (schema key : String) (d : RelationshipDeclaration) : Relationship :=
  match d.kind with
  | .belongsTo => .belongsTo d.name d.related d.foreignKey
  | kind => .has kind d.name d.related schema d.foreignKey key

/-- The relationships that the members give. -/
def relationships (schema key : String) (members : List Member) : List Relationship :=
  members.filterMap fun
    | .relationship d => some (relationship schema key d)
    | _ => none

/-- The schema that a declaration gives. -/
def resolve (d : Declaration) : Except SchemaTextError Descriptor := do
  let fs ← fields d.name d.members
  (Descriptor.define d.name fs d.relation
    (relationships d.name (keyName d.members) d.members)).mapError .schema

/-- The schemas that declarations give. -/
def resolveAll : List Declaration → Except SchemaTextError (List Descriptor)
  | [] => .ok []
  | d :: ds => do
    let s ← d.resolve
    let rest ← resolveAll ds
    return s :: rest

end Declaration

namespace Registry

/-- Registers schemas one after the other. The ones before a refused schema stay. -/
def registerAll (r : Registry) : List Descriptor → Registry × Except SchemaError Unit
  | [] => (r, .ok ())
  | d :: ds =>
    match r.register d with
    | .ok r => r.registerAll ds
    | .error e => (r, .error e)

/-- Whether all relationships of a schema lead somewhere. -/
def checkRelationships (r : Registry) (d : Descriptor) : List Relationship → Except SchemaError Unit
  | [] => .ok ()
  | rel :: rels =>
    match r.joint d rel.name with
    | .ok _ => r.checkRelationships d rels
    | .error cause => .error (.unresolved d.name rel.name cause)

/-- Whether all relationships of all given schemas lead somewhere. -/
def checkAll (r : Registry) : List Descriptor → Except SchemaError Unit
  | [] => .ok ()
  | d :: ds => do
    r.checkRelationships d d.relationships
    r.checkAll ds

/-- Adds the schemas of a text. When it is refused for a relationship or a name that is taken, some
of its schemas are registered all the same. -/
def extend (r : Registry) (text : String) : Registry × Except SchemaTextError Unit :=
  match Declaration.ofText text with
  | .error e => (r, .error e)
  | .ok ds =>
    match Declaration.resolveAll ds with
    | .error e => (r, .error e)
    | .ok schemas =>
      match r.registerAll schemas with
      | (r, .error e) => (r, .error (.schema e))
      | (r, .ok ()) => (r, (r.checkAll schemas).mapError .schema)

/-- Adds the schemas of a text, and gives the names of those that are new. -/
def enroll (r : Registry) (text : String) : Registry × Except SchemaTextError (List String) :=
  let (after, outcome) := r.extend text
  (after, outcome.map fun _ => after.namesSince r)

/-- The registry of a text. -/
def ofText (text : String) : Except SchemaTextError Registry :=
  match empty.extend text with
  | (r, .ok ()) => .ok r
  | (_, .error e) => .error e

end Registry

end RecordMapper
