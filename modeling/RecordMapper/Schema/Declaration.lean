import RecordMapper.Schema.Basic
import RecordMapper.Schema.Token

/-! # Declarations

What a schema text says, before kinds, defaults and relationships are checked. -/

namespace RecordMapper

/-- A literal of a schema text. -/
inductive Literal where
  | integer (i : Int)
  | float (x : Number.Binary64)
  | string (s : String)
  | bool (b : Bool)
  | null
deriving DecidableEq, Repr

namespace Literal

/-- The value of a literal. -/
def value : Literal → Value
  | .integer i => .int i
  | .float x => .float x
  | .string s => .string s
  | .bool b => .bool b
  | .null => .null

/-- The literal of a token. -/
def ofLexeme? : Lexeme → Option Literal
  | .integer i => some (.integer i)
  | .float x => some (.float x)
  | .string s => some (.string s)
  | .keyword .true => some (.bool true)
  | .keyword .false => some (.bool false)
  | .keyword .null => some .null
  | _ => none

end Literal

/-- A declared field, with the line of its name. Its default is `null` if none is written. -/
structure FieldDeclaration where
  name : String
  line : Nat
  kind : String
  virtual : Bool
  primaryKey : Bool
  default : Literal
deriving DecidableEq, Repr

/-- A declared relationship, with the foreign key if one is written. -/
structure RelationshipDeclaration where
  kind : RelationshipKind
  name : String
  related : String
  foreignKey : Option String
deriving DecidableEq, Repr

/-- A member of a declared schema: a field, a relationship, or the fields for the times of creation
and change. -/
inductive Member where
  | field (d : FieldDeclaration)
  | relationship (d : RelationshipDeclaration)
  | timestamps
deriving DecidableEq, Repr

/-- A declared schema, with the relation if one is written. -/
structure Declaration where
  name : String
  relation : Option String
  members : List Member
deriving DecidableEq, Repr

end RecordMapper
