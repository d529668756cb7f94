import RecordMapper.Sql.Dialect
import RecordMapper.Query.Term

/-! # Statements

A statement is put together from pieces, in which names are not yet quoted and values stand where
they are bound. Only writing the pieces down in a dialect turns names into quoted identifiers and
values into placeholders, so no value gets into the text. -/

namespace RecordMapper

/-- What a statement binds: a value, or what is no value and stood in the place of one, which is
handed on as it is. -/
inductive Parameter where
  | value (v : Value)
  | item (t : Term)
deriving Repr

namespace Parameter

/-- The parameter that stands in the place of a term, unless it is a term. -/
def ofTerm? (t : Term) : Option Parameter :=
  if t.isTerm then none
  else
    match t with
    | .plain v => some (.value v)
    | t => some (.item t)

end Parameter

/-- A piece of a statement: words and signs of the language, text that was written by hand, a name,
or what is bound, in the place of its placeholder or without one. -/
inductive Piece where
  | word (s : String)
  | raw (cs : List Char)
  | name (s : String)
  | slot (p : Parameter)
  | unplaced (p : Parameter)
deriving Repr

namespace Piece

/-- What pieces bind, in order. -/
def parameters : List Piece → List Parameter
  | [] => []
  | .slot p :: ps => p :: parameters ps
  | .unplaced p :: ps => p :: parameters ps
  | _ :: ps => parameters ps

/-- The text of pieces in a dialect, `bound` values being bound before. -/
def render (d : Dialect) (bound : Nat) : List Piece → List Char
  | [] => []
  | .word s :: ps => s.toList ++ render d bound ps
  | .raw cs :: ps => cs ++ render d bound ps
  | .name s :: ps => Dialect.quote s.toList ++ render d bound ps
  | .slot _ :: ps => d.placeholder (bound + 1 : Nat) ++ render d (bound + 1) ps
  | .unplaced _ :: ps => render d (bound + 1) ps

/-- The pieces without a place for any value. -/
def withoutPlaces : List Piece → List Piece
  | [] => []
  | .slot p :: ps => .unplaced p :: withoutPlaces ps
  | .unplaced p :: ps => .unplaced p :: withoutPlaces ps
  | _ :: ps => withoutPlaces ps

/-- Lists of pieces with a separator between them. -/
def separated (separator : String) : List (List Piece) → List Piece
  | [] => []
  | [ps] => ps
  | ps :: rest => ps ++ .word separator :: separated separator rest

/-- Names with commas between them. -/
def names (ns : List String) : List Piece := separated ", " (ns.map fun n => [.name n])

/-- A relation under the name it is bound to. -/
def aliased (relation binding : String) : List Piece :=
  [.name relation, .word " AS ", .name binding]

end Piece

/-- A statement that a store can execute: the text with its placeholders, the values for these, the
names of the columns where they are known, and the schema of the records, if the rows are
records. -/
structure Statement where
  text : String
  parameters : List Parameter
  columns : List String
  source : Option String
deriving Repr

namespace Statement

/-- The statement that pieces make in a dialect. -/
def ofPieces (d : Dialect) (ps : List Piece) (columns : List String) (source : Option String) :
    Statement :=
  ⟨String.ofList (Piece.render d 0 ps), Piece.parameters ps, columns, source⟩

end Statement

end RecordMapper
