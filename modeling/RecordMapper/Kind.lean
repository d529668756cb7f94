/-! # Kinds of fields -/

namespace RecordMapper

/-- What the values of a field mean. -/
inductive Kind where
  | id
  | string
  | integer
  | float
  | decimal
  | boolean
  | date
  | time
  | timestamp
  | binary
  | uuid
  | map
deriving DecidableEq, Repr, Inhabited

namespace Kind

/-- All kinds. -/
def all : List Kind :=
  [.id, .string, .integer, .float, .decimal, .boolean, .date, .time, .timestamp, .binary, .uuid,
   .map]

/-- The name of a kind in schema texts. -/
def name : Kind → String
  | .id => "id"
  | .string => "string"
  | .integer => "integer"
  | .float => "float"
  | .decimal => "decimal"
  | .boolean => "boolean"
  | .date => "date"
  | .time => "time"
  | .timestamp => "timestamp"
  | .binary => "binary"
  | .uuid => "uuid"
  | .map => "map"

/-- The kind of a name. -/
def ofName? (name : String) : Option Kind := all.find? fun k => k.name == name

/-- Whether values of the kind are numbers. -/
def isNumeric : Kind → Bool
  | .id | .integer | .float | .decimal => true
  | _ => false

theorem ofName?_name (k : Kind) : ofName? k.name = some k := by
  cases k <;> decide

theorem name_of_ofName? {s : String} {k : Kind} (h : ofName? s = some k) : k.name = s := by
  have := List.find?_some h
  simpa using this

end Kind

end RecordMapper
