import RecordMapper.Sql.Plan
import RecordMapper.Sql.Statement

/-! # Terms as text

A term becomes pieces of a statement. Every operator stands between parentheses with its operands,
so that no precedence of the language plays a part. -/

namespace RecordMapper

/-- What a term may name and hold where it stands. -/
structure Scope where
  bindings : List Bound
  part : Part

namespace Bound

/-- Whether the field of what is bound is a stored one; where there is no schema, any name is. -/
def checkField (b : Bound) (name : String) : Except CompileError Unit :=
  match b.schema with
  | none => .ok ()
  | some schema =>
    match schema.find? name with
    | none => .error (.unknownField schema.name b.name name)
    | some f => if f.virtual then .error (.virtualField name schema.name) else .ok ()

end Bound

namespace Scope

/-- A field of what is bound to a name. -/
def fieldPieces (s : Scope) (binding name : String) : Except CompileError (List Piece) :=
  match Plan.lookUp s.bindings binding with
  | none => .error (.unbound binding s.part)
  | some b => do
    b.checkField name
    return [.name binding, .word ".", .name name]

end Scope

namespace Term

/-- The words before, between and after the operands of an operator. Where letters of either case
have no operator of their own, both operands are made small. -/
def operatorWords (d : Dialect) (op : Operator) : String × String × String :=
  if op = .ilike ∧ !d.hasIlike then ("(LOWER(", ") LIKE LOWER(", "))")
  else ("(", " " ++ op.symbol.toUpper ++ " ", ")")

/-- Two operands with an operator between them. -/
def binaryPieces (d : Dialect) (op : Operator) (left right : List Piece) : List Piece :=
  let (before, between, after) := operatorWords d op
  .word before :: left ++ .word between :: right ++ [.word after]

/-- Parts of a fragment with pieces in its slots. -/
def fillSlots : List Fragment.Part → List (List Piece) → List Piece
  | [], _ => []
  | .text cs :: parts, params => .raw cs :: fillSlots parts params
  | .slot :: parts, [] => fillSlots parts []
  | .slot :: parts, p :: params => p ++ fillSlots parts params

/-- The parts of a fragment that has as many slots as there are parameters. -/
def fragmentParts (raw : String) (params : Nat) : Except CompileError (List Fragment.Part) :=
  match Fragment.split raw with
  | .error e => .error (.malformedFragment raw e)
  | .ok parts =>
    let slots := Fragment.slotCount parts
    if slots = params then .ok parts else .error (.slotMismatch raw slots params)

/-- Whether an aggregate can stand where it stands. -/
def checkAggregate (s : Scope) (inAggregate : Bool) (f : AggregateFunction) :
    Except CompileError Unit :=
  match f with
  | .other name => .error (.unknownAggregate name)
  | f =>
    if inAggregate then .error (.nestedAggregate f.word)
    else if s.part.allowsAggregates then .ok ()
    else .error (.misplacedAggregate f.word s.part)

/-- Whether an operator is one of the language and does not compare with no value. -/
def checkOperator (s : Scope) (op : Operator) (left right : Term) : Except CompileError Unit :=
  match op with
  | .other name => .error (.unknownOperator name)
  | op =>
    if op.isComparison ∧ (left.isNullLiteral ∨ right.isNullLiteral) then
      .error (.nullComparison s.part)
    else .ok ()

/-- The word between conditions. -/
def connectiveWord : Connective → Except CompileError String
  | .and => .ok " AND "
  | .or => .ok " OR "
  | .other name => .error (.unknownConnective name)

/-- The condition that an operand is one of no values. -/
def emptyListPieces (operand : List Piece) (negated : Bool) : List Piece :=
  Piece.withoutPlaces operand ++ [.word (if negated then "(1 = 1)" else "(1 = 0)")]

mutual

/-- The pieces of a term; `inAggregate` says that it stands within a function of groups. -/
def pieces (d : Dialect) (s : Scope) (inAggregate : Bool) :
    Term → Except CompileError (List Piece)
  | .field binding name => s.fieldPieces binding name
  | .literal v => .ok [.slot (.value v)]
  | .held item => .ok [.slot (.item item)]
  | .binary op left right => do
    checkOperator s op left right
    let l ← pieces d s inAggregate left
    let r ← pieces d s inAggregate right
    return binaryPieces d op l r
  | .connected op operands => do
    let word ← connectiveWord op
    let ps ← piecesOfAll d s inAggregate operands
    return .word "(" :: Piece.separated word ps ++ [.word ")"]
  | .not operand => do
    let ps ← pieces d s inAggregate operand
    return .word "(NOT " :: ps ++ [.word ")"]
  | .isNull operand negated => do
    let ps ← pieces d s inAggregate operand
    return .word "(" :: ps ++ [.word (if negated then " IS NOT NULL)" else " IS NULL)")]
  | .inList operand [] negated => do
    let ps ← pieces d s inAggregate operand
    return emptyListPieces ps negated
  | .inList operand (v :: vs) negated => do
    let ps ← pieces d s inAggregate operand
    let first ← pieces d s inAggregate v
    let more ← piecesOfAll d s inAggregate vs
    return .word "(" :: ps ++ .word (if negated then " NOT IN (" else " IN (") ::
      Piece.separated ", " (first :: more) ++ [.word "))"]
  | .aggregate f none _ => do
    checkAggregate s inAggregate f
    if f = .count then return [.word "COUNT(*)"] else throw (.emptyAggregate f.word)
  | .aggregate f (some operand) distinct => do
    checkAggregate s inAggregate f
    let ps ← pieces d s true operand
    return .word f.word.toUpper :: .word (if distinct then "(DISTINCT " else "(") ::
      ps ++ [.word ")"]
  | .fragment raw params => do
    let parts ← fragmentParts raw params.length
    let ps ← piecesOfParams d s inAggregate params
    return fillSlots parts ps
  | .alias _ _ => .error (.misplacedAlias s.part)
  | .order t d => .error (.unknownTerm (Term.order t d).className)
  | .pair t word => .error (.unknownTerm (Term.pair t word).className)
  | .plain v => .error (.unknownTerm v.className)

/-- The pieces of each term of a list. -/
def piecesOfAll (d : Dialect) (s : Scope) (inAggregate : Bool) :
    List Term → Except CompileError (List (List Piece))
  | [] => .ok []
  | t :: ts => do
    let ps ← pieces d s inAggregate t
    let rest ← piecesOfAll d s inAggregate ts
    return ps :: rest

/-- The pieces of each parameter of a fragment; what is no term is bound. -/
def piecesOfParams (d : Dialect) (s : Scope) (inAggregate : Bool) :
    List Term → Except CompileError (List (List Piece))
  | [] => .ok []
  | t :: ts => do
    let ps ← match Parameter.ofTerm? t with
      | some p => pure [.slot p]
      | none => pieces d s inAggregate t
    let rest ← piecesOfParams d s inAggregate ts
    return ps :: rest

end

end Term

end RecordMapper
