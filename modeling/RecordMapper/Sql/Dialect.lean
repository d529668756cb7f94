import RecordMapper.Text.Numeral

/-! # Dialects

What differs between stores: how a parameter is marked in a statement, and whether a comparison
of texts without regard to case is built in. -/

namespace RecordMapper

/-- A dialect of the statement language: its name, whether its placeholders have numbers, and
whether `ILIKE` is built in. -/
structure Dialect where
  name : String
  isNumbered : Bool
  hasIlike : Bool
deriving DecidableEq, Repr, Inhabited

namespace Dialect

/-- The dialect of no particular store. -/
def generic : Dialect := ⟨"generic", false, false⟩

/-- The dialect of SQLite. -/
def sqlite : Dialect := ⟨"sqlite", false, false⟩

/-- The dialect of PostgreSQL. -/
def postgres : Dialect := ⟨"postgres", true, true⟩

/-- The dialect of a store by name. -/
def ofName? (name : String) : Option Dialect := [sqlite, postgres].find? (·.name == name)

/-- The text of the error for a name that no store has. -/
def unknownMessage (name : String) : String := s!"Unknown dialect '{name}'"

/-- The mark of a parameter by its place, counted from 1. -/
def placeholder (d : Dialect) (position : Int) : List Char :=
  if d.isNumbered then '$' :: Text.intNumeral position else ['?']

/-- The characters of a quoted identifier: a quote is written twice. -/
def doubled : List Char → List Char
  | [] => []
  | c :: cs => if c = '"' then '"' :: '"' :: doubled cs else c :: doubled cs

/-- An identifier between quotes. -/
def quote (identifier : List Char) : List Char := '"' :: doubled identifier ++ ['"']

end Dialect

end RecordMapper
