import RecordMapper.Sql.Statement
import RecordMapper.Store.Deadline

/-! # Connections

What a store above a database connection has to know of it. A statement that runs long asks from
time to time whether to go on; the reply holds the moments at which it did. -/

namespace RecordMapper

/-- A class of errors of a connection. -/
inductive ConnectionErrorKind where
  | general
  | interface
  | database
  | operational
  | integrity
  | data
  | programming
deriving DecidableEq, Repr

/-- An error of a connection. -/
structure ConnectionError where
  kind : ConnectionErrorKind
  message : String
deriving DecidableEq, Repr

namespace ConnectionErrorKind

/-- The name of a class of errors. -/
def className : ConnectionErrorKind → String
  | .general => "Error"
  | .interface => "InterfaceError"
  | .database => "DatabaseError"
  | .operational => "OperationalError"
  | .integrity => "IntegrityError"
  | .data => "DataError"
  | .programming => "ProgrammingError"

/-- The class of errors of a name. -/
def ofClassName? (s : String) : Option ConnectionErrorKind :=
  [general, interface, database, operational, integrity, data, programming].find?
    (·.className == s)

end ConnectionErrorKind

/-- The rows of a statement, and the names of the columns if it has any. -/
structure Cursor where
  columns : Option (List String)
  rows : List (List Value)
deriving Repr

namespace Cursor

/-- No columns and no rows. -/
def empty : Cursor := ⟨none, []⟩

end Cursor

/-- How a statement ends, and the moments at which it asked whether to go on, in order. -/
structure Reply where
  asked : List Moment
  result : Except ConnectionError Cursor

/-- A connection with states of type `σ`. A question may be watched for every so many instructions,
whether to give up. -/
structure Connection (σ : Type) where
  moment : σ → Moment
  execute : String → List Parameter → σ → Reply × σ
  script : String → σ → Reply × σ
  inTransaction : σ → Bool
  watch : Int → Option (Moment → Bool) → σ → σ
  close : σ → σ

end RecordMapper
