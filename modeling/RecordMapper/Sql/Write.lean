import RecordMapper.Sql.Select

/-! # Writing rows

The statements that write one record or many rows. Each of them gives back the rows that it
wrote. -/

namespace RecordMapper

/-- Why there is no statement that writes: there is no such field, or the statement makes no
sense. -/
inductive WriteError where
  | lookup (e : LookupError)
  | compile (e : CompileError)

namespace Descriptor

/-- The names of the stored fields. -/
def storedNames (s : Descriptor) : List String := s.stored.map Field.name

/-- The values of stored fields, in the order of the fields; each name must be one of a field. -/
def storedValues (s : Descriptor) (values : Row Value) : Except LookupError (Row Value) := do
  let _ ← values.keys.mapM s.field
  return s.storedNames.filterMap fun n => (values.find? n).map fun v => (n, v)

/-- The end of a statement: it gives back the stored fields. -/
def returning (s : Descriptor) : List Piece :=
  .word " RETURNING " :: Piece.names s.storedNames

/-- A statement whose rows are records of the schema. -/
def statement (s : Descriptor) (d : Dialect) (ps : List Piece) : Statement :=
  Statement.ofPieces d (ps ++ s.returning) s.storedNames (some s.name)

/-- The condition that the primary key has a value. -/
def whereKey (s : Descriptor) (key : Value) : List Piece :=
  [.word " WHERE ", .name s.primaryKey, .word " = ", .slot (.value key)]

/-- The columns and the values of a new record. -/
def recordPieces (values : Row Value) : List Piece :=
  if values.isEmpty then [.word " DEFAULT VALUES"]
  else
    .word " (" :: Piece.names values.keys ++ .word ") VALUES (" ::
      Piece.separated ", " (values.map fun x => [.slot (.value x.2)]) ++ [.word ")"]

/-- The statement that stores a new record. -/
def insertion (s : Descriptor) (d : Dialect) (values : Row Value) :
    Except WriteError Statement := do
  let stored ← (s.storedValues values).mapError .lookup
  return s.statement d (.word "INSERT INTO " :: .name s.relation :: recordPieces stored)

/-- The statement that changes the record of a key. -/
def change (s : Descriptor) (d : Dialect) (key : Value) (values : Row Value) :
    Except WriteError Statement := do
  let stored ← (s.storedValues values).mapError .lookup
  if stored.isEmpty then throw (.compile (.nothingToUpdate s.name))
  return s.statement d (.word "UPDATE " :: .name s.relation :: .word " SET " ::
    Piece.separated ", " (stored.map fun x => [.name x.1, .word " = ", .slot (.value x.2)]) ++
    s.whereKey key)

/-- The statement that removes the record of a key. -/
def removal (s : Descriptor) (d : Dialect) (key : Value) : Statement :=
  s.statement d (.word "DELETE FROM " :: .name s.relation :: s.whereKey key)

end Descriptor

namespace Plan

/-- The plan of a query that is a source with conditions on rows. -/
def ofBulk (registry : Option Registry) (q : Query) (operation : BulkOperation) :
    Except CompileError Plan := do
  let p ← ofQuery registry q
  if p.isBulk then return p else throw (.notBulk operation)

/-- The pieces of the statement that removes the rows. -/
def deleteAllPieces (d : Dialect) (p : Plan) : Except CompileError (List Piece) := do
  let condition ← p.wherePieces d
  return .word "DELETE FROM " :: Piece.aliased p.source.relation p.source.name ++ condition ++
    [.word " RETURNING *"]

/-- The statement that removes the rows. -/
def deleteAll (d : Dialect) (p : Plan) : Except CompileError Statement := do
  let ps ← p.deleteAllPieces d
  return Statement.ofPieces d ps [] none

/-- A field and its new value: a term for each row, or what is bound for all of them. -/
def assignment (d : Dialect) (p : Plan) (x : String × Term) :
    Except CompileError (List Piece) := do
  p.source.checkField x.1
  let value ← match Parameter.ofTerm? x.2 with
    | some bound => pure [.slot bound]
    | none => x.2.pieces d ⟨p.bindings, .updateAll⟩ false
  return .name x.1 :: .word " = " :: value

/-- The pieces of the statement that changes the rows. -/
def updateAllPieces (d : Dialect) (p : Plan) (values : Row Term) :
    Except CompileError (List Piece) := do
  if values.isEmpty then throw .nothingToSet
  let assignments ← values.mapM (assignment d p)
  let condition ← p.wherePieces d
  return .word "UPDATE " :: Piece.aliased p.source.relation p.source.name ++ .word " SET " ::
    Piece.separated ", " assignments ++ condition ++ [.word " RETURNING *"]

/-- The statement that changes the rows. -/
def updateAll (d : Dialect) (p : Plan) (values : Row Term) :
    Except CompileError Statement := do
  let ps ← p.updateAllPieces d values
  return Statement.ofPieces d ps [] none

end Plan

namespace Query

/-- The statement that removes the rows of a query. -/
def compileDeleteAll (registry : Option Registry) (d : Dialect) (q : Query) :
    Except CompileError Statement := do
  let p ← Plan.ofBulk registry q .deleteAll
  p.deleteAll d

/-- The statement that changes the rows of a query. -/
def compileUpdateAll (registry : Option Registry) (d : Dialect) (q : Query)
    (values : Row Term) : Except CompileError Statement := do
  let p ← Plan.ofBulk registry q .updateAll
  p.updateAll d values

end Query

end RecordMapper
