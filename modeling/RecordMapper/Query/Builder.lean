import RecordMapper.Query.Term
import RecordMapper.Text.Case
import RecordMapper.Value.Text

/-! # Building terms

Terms are built from terms, values and paths such as `u.name`. -/

namespace RecordMapper

/-- Why a term or a query is not built: the path is not a name, a point and a name; nothing is
joined; different rows are counted without saying in what they differ; there is no such direction,
kind of join or attribute; what to sort by is a tuple of so many items and no pair; or a number of
rows is none. -/
inductive BuildError where
  | badPath (path : String)
  | noOperands (op : Connective)
  | distinctRows
  | badDirection (word : String)
  | badPair (count : Nat)
  | badJoin (kind : String)
  | badCount (what : String) (count : Value)
  | noAttribute

namespace BuildError

/-- The text of the error, where it is more than its kind. -/
def message : BuildError → String
  | .badPath path => s!"Field reference must look like 'binding.field', got '{path}'"
  | .noOperands op =>
    let word := op.word
    s!"{word}_() needs at least one operand"
  | .distinctRows => "count(distinct=True) needs an expression"
  | .badDirection word => s!"Invalid order direction '{word}'"
  | .badPair count =>
    if count < 2 then s!"not enough values to unpack (expected 2, got {count})"
    else "too many values to unpack (expected 2)"
  | .badJoin kind => s!"Unknown join kind '{kind}'"
  | .badCount what count =>
    let found := count.exactText
    s!"{what} must be a non-negative integer, got {found}"
  | .noAttribute => ""

end BuildError

/-- The outcome of building. -/
abbrev Built (α : Type) := Except BuildError α

namespace Term

/-- A literal; a list becomes a tuple. -/
def ofValue : Value → Term
  | .list xs => .literal (.tuple xs)
  | v => .literal v

/-- A term as it is, anything else as a literal. -/
def toTerm (t : Term) : Term :=
  if t.isTerm then t
  else
    match t with
    | .plain v => ofValue v
    | t => .held t

/-- A pair of what stands in the place of a term and a word. -/
def paired (t : Term) (word : String) : Term :=
  match t with
  | .plain v => .plain (.tuple [v, .string word])
  | t => .pair t word

/-- The field of a path: a name, a point and a name, which may hold further points. -/
def ofPath (path : String) : Built Term :=
  let binding := path.toList.takeWhile (· != '.')
  match binding, path.toList.dropWhile (· != '.') with
  | _ :: _, '.' :: name :: rest =>
    .ok (.field (String.ofList binding) (String.ofList (name :: rest)))
  | _, _ => .error (.badPath path)

/-- A path as a field, anything else as it is. -/
def pathOrTerm : Term → Built Term
  | .plain (.string path) => ofPath path
  | t => .ok t

/-- The attribute that is the name itself. -/
def nameAttribute : String := "_name"

/-- A field of what is bound to a name, by attribute; one attribute is the name itself. -/
def ofAttribute (binding name : String) : Built Term :=
  if name = nameAttribute then .ok (.plain (.string binding))
  else if name.toList.head? = some '_' then .error .noAttribute
  else .ok (.field binding name)

/-- Terms joined; a single one stays as it is. -/
def connect (op : Connective) : List Term → Built Term
  | [] => .error (.noOperands op)
  | [t] => .ok t.toTerm
  | ts => .ok (.connected op (ts.map toTerm))

/-- A term, unless there is only `null` in its place. -/
def present? : Term → Option Term
  | .plain .null => none
  | t => some t

/-- The number of rows, or of the rows in which a term has a value. -/
def count (operand : Option Term) (distinct : Bool) : Built Term :=
  match operand.bind present? with
  | none => if distinct then .error .distinctRows else .ok (.aggregate .count none false)
  | some t => do
    let t ← t.pathOrTerm
    return .aggregate .count (some t) distinct

/-- A function of the values of a term. -/
def aggregateOf (f : AggregateFunction) (t : Term) (distinct : Bool) : Built Term := do
  let t ← t.pathOrTerm
  return .aggregate f t.present? distinct

/-- A term under a name. -/
def named (t : Term) (name : String) : Built Term := do
  let t ← t.pathOrTerm
  return .alias t name

/-- A term to sort by, in a direction given by its word. -/
def ordered (t : Term) (word : String) : Built Term :=
  match Direction.ofWord? word with
  | some d => .ok (.order t d)
  | none => .error (.badDirection word)

/-- A term to sort by and the direction of a word in letters of either case. -/
def inDirection (t : Term) (word : String) : Built (Term × Direction) := do
  let t ← t.pathOrTerm
  match Direction.ofWord? (Text.lower word) with
  | some d => return (t, d)
  | none => throw (.badDirection (Text.lower word))

/-- Bytes with small letters in place of the ASCII capitals. -/
def smallBytes (bytes : List UInt8) : List UInt8 :=
  bytes.map fun b => if 65 ≤ b ∧ b ≤ 90 then b + 32 else b

/-- A term to sort by: as it is, with the direction of a pair, or in ascending order. -/
def toOrder : Term → Built (Term × Direction)
  | .order t d => .ok (t, d)
  | .pair t word => t.inDirection word
  | .plain (.tuple [v, .string word]) => (Term.plain v).inDirection word
  | .plain (.tuple [v, .binary bytes]) => do
    let _ ← (Term.plain v).pathOrTerm
    throw (.badDirection (Value.binary (smallBytes bytes)).plainText)
  | .plain (.tuple [v, _]) => do
    let _ ← (Term.plain v).pathOrTerm
    throw .noAttribute
  | .plain (.tuple vs) => .error (.badPair vs.length)
  | t => do
    let t ← t.pathOrTerm
    return (t, .asc)

end Term

end RecordMapper
