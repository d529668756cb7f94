import RecordMapper.Sql.Expression

/-! # Reading rows

The statement that reads the rows of a query. Its clauses stand in the order of the statement
language, whatever order they were added in. -/

namespace RecordMapper

/-- A term that is put out as a column, and whether the name of that has to be said. -/
structure Column where
  term : List Piece
  name : String
  isNamed : Bool

namespace Column

/-- The pieces of a column. -/
def pieces (c : Column) : List Piece :=
  if c.isNamed then c.term ++ [.word " AS ", .name c.name] else c.term

/-- The name of a column that is given none: its function and field, or its place. -/
def defaultName (position : Nat) : Term → String
  | .aggregate f (some (.field _ name)) _ =>
    let word := f.word
    s!"{word}_{name}"
  | .aggregate f _ _ => f.word
  | _ => s!"column_{position}"

/-- The term that is written for a column. -/
def termOf : Term → Term
  | .alias t _ => t
  | t => t

/-- The name of a column, and whether it has to be said, `used` being the names before. A field
whose name is used has that of its binding in front. -/
def nameOf (used : List String) (position : Nat) : Term → String × Bool
  | .alias _ name => (name, true)
  | .field binding name =>
    if used.contains name then (s!"{binding}_{name}", true) else (name, false)
  | t => (defaultName position t, true)

/-- The column of a term at a position. -/
def ofTerm (d : Dialect) (s : Scope) (used : List String) (position : Nat) (t : Term) :
    Except CompileError Column := do
  let term ← (termOf t).pieces d s false
  let (name, isNamed) := nameOf used position t
  if used.contains name then throw (.duplicateColumn name) else return ⟨term, name, isNamed⟩

/-- The columns of terms, the first of them at a position. -/
def ofTerms (d : Dialect) (s : Scope) (used : List String) (position : Nat) :
    List Term → Except CompileError (List Column)
  | [] => .ok []
  | t :: ts => do
    let c ← ofTerm d s used position t
    let rest ← ofTerms d s (c.name :: used) (position + 1) ts
    return c :: rest

end Column

/-- What a statement puts out: its pieces, the names of the columns where they are known, and the
schema of the records, if the rows are records. -/
structure Projection where
  pieces : List Piece
  columns : List String
  source : Option String

namespace Plan

/-- The stored fields of what is bound, or all of its columns where there is no schema. -/
def record (b : Bound) : Projection :=
  match b.schema with
  | none => ⟨[.name b.name, .word ".*"], [], none⟩
  | some schema =>
    let names := schema.stored.map Field.name
    ⟨Piece.separated ", " (names.map fun n => [.name b.name, .word ".", .name n]), names,
      some schema.name⟩

/-- What the statement puts out. -/
def projected (d : Dialect) (p : Plan) : Except CompileError Projection :=
  match p.projection with
  | none => .ok (record p.source)
  | some [] => .error .emptySelect
  | some (t :: ts) => do
    let columns ← Column.ofTerms d ⟨p.bindings, .select⟩ [] 1 (t :: ts)
    return ⟨Piece.separated ", " (columns.map Column.pieces), columns.map Column.name, none⟩

/-- The words of a kind of join. -/
def joinWord : JoinKind → String
  | .inner => " INNER JOIN "
  | .left => " LEFT JOIN "

/-- The pieces of a join. -/
def joinPieces (d : Dialect) (j : PlannedJoin) : Except CompileError (List Piece) := do
  let on ← j.condition.pieces d ⟨j.visible, .join⟩ false
  return .word (joinWord j.kind) :: Piece.aliased j.joined.relation j.joined.name ++
    .word " ON " :: on

/-- A keyword and what stands after it, or nothing where there is nothing. -/
def clausePieces (keyword separator : String) (parts : List (List Piece)) : List Piece :=
  if parts.isEmpty then [] else .word keyword :: Piece.separated separator parts

/-- The pieces of a condition that may be missing. -/
def conditionPieces (d : Dialect) (s : Scope) (keyword : String) :
    Option Term → Except CompileError (List Piece)
  | none => .ok []
  | some t => do
    let ps ← t.pieces d s false
    return .word keyword :: ps

/-- The condition on rows. -/
def wherePieces (d : Dialect) (p : Plan) : Except CompileError (List Piece) :=
  conditionPieces d ⟨p.bindings, .where⟩ " WHERE " p.condition

/-- What rows are grouped by. -/
def groupPieces (d : Dialect) (p : Plan) : Except CompileError (List Piece) := do
  let parts ← Term.piecesOfAll d ⟨p.bindings, .groupBy⟩ false p.groupBy
  return clausePieces " GROUP BY " ", " parts

/-- The condition on groups. -/
def havingPieces (d : Dialect) (p : Plan) : Except CompileError (List Piece) :=
  conditionPieces d ⟨p.bindings, .having⟩ " HAVING " p.groupCondition

/-- The word for a direction in a statement. -/
def directionWord : Direction → String
  | .asc => " ASC"
  | .desc => " DESC"

/-- What rows are sorted by. -/
def orderPieces (d : Dialect) (p : Plan) : Except CompileError (List Piece) := do
  let parts ← Term.piecesOfAll d ⟨p.bindings, .orderBy⟩ false (p.orderBy.map Prod.fst)
  return clausePieces " ORDER BY " ", "
    ((parts.zip (p.orderBy.map Prod.snd)).map fun x => x.1 ++ [.word (directionWord x.2)])

/-- A number of rows after its keyword. -/
def countPieces (keyword : String) : Option Int → List Piece
  | none => []
  | some n => [.word keyword, .slot (.value (.int n))]

/-- The fragments at the end. -/
def fragmentPieces (d : Dialect) (p : Plan) : Except CompileError (List Piece) := do
  let parts ← Term.piecesOfAll d ⟨p.bindings, .fragment⟩ false
    (p.fragments.map fun f => .fragment f.1 f.2)
  return parts.flatMap fun ps => .word " " :: ps

/-- The pieces of the statement that reads the rows, after those of what it puts out. -/
def selectPieces (d : Dialect) (p : Plan) (out : Projection) :
    Except CompileError (List Piece) := do
  let joins ← p.joins.mapM (joinPieces d)
  let condition ← p.wherePieces d
  let groups ← p.groupPieces d
  let having ← p.havingPieces d
  let order ← p.orderPieces d
  let fragments ← p.fragmentPieces d
  return .word (if p.distinct then "SELECT DISTINCT " else "SELECT ") :: out.pieces ++
    .word " FROM " :: Piece.aliased p.source.relation p.source.name ++ joins.flatten ++
    condition ++ groups ++ having ++ order ++ countPieces " LIMIT " p.limit ++
    countPieces " OFFSET " p.offset ++ fragments

/-- The statement that reads the rows. -/
def select (d : Dialect) (p : Plan) : Except CompileError Statement := do
  let out ← p.projected d
  let ps ← p.selectPieces d out
  return Statement.ofPieces d ps out.columns out.source

end Plan

/-- The statement that reads the rows of a query. -/
def Query.compile (registry : Option Registry) (d : Dialect) (q : Query) :
    Except CompileError Statement := do
  let p ← Plan.ofQuery registry q
  p.select d

end RecordMapper
