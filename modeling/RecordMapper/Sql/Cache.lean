import RecordMapper.Sql.Select

/-! # The compile cache

A compiler keeps the statements of the queries that it compiled last, and gives them again for
queries built in the same way. A query that holds a value which cannot be a key is not kept. -/

namespace RecordMapper

/-- A compiled query; its serial says how many queries were compiled before. -/
structure Compiled where
  statement : Statement
  serial : Nat

/-- A compiler of queries, with the statements that it keeps up to its capacity, the oldest first,
and how many queries it compiled. -/
structure Compiler where
  registry : Option Registry
  dialect : Dialect
  capacity : Int
  kept : List (Query × Compiled)
  compiled : Nat

namespace Compiler

/-- How many statements a compiler keeps unless it is told otherwise. -/
def defaultCapacity : Int := 512

/-- A compiler that has compiled nothing. -/
def new (registry : Option Registry) (dialect : Dialect) (capacity : Int) : Compiler :=
  ⟨registry, dialect, capacity, [], 0⟩

/-- Whether two queries are one key. Equal times of day may be less than a second apart, and then
they are two keys. Keys go by value alone: a query with a literal that is not equal to itself is no
key of its own, though a table that looked at identity first would find the very same object. -/
def sameKey (q r : Query) : Bool :=
  q.same r && Value.allInstants q.values == Value.allInstants r.values

/-- What is kept for a query. -/
def find? (c : Compiler) (q : Query) : Option Compiled :=
  (c.kept.find? fun e => sameKey e.1 q).map Prod.snd

/-- Drops the oldest entries until there is room for one more. -/
def makeRoom (capacity : Int) : List (Query × Compiled) → List (Query × Compiled)
  | [] => []
  | e :: es => if ((e :: es).length : Int) ≥ capacity then makeRoom capacity es else e :: es

/-- Keeps a compiled query. -/
def keep (c : Compiler) (q : Query) (x : Compiled) : Compiler :=
  let kept := makeRoom c.capacity c.kept
  { c with kept := if c.capacity > 0 then kept ++ [(q, x)] else kept }

/-- Compiles a query anew. -/
def compileAnew (c : Compiler) (q : Query) : Except CompileError (Compiled × Compiler) := do
  let statement ← q.compile c.registry c.dialect
  return (⟨statement, c.compiled⟩, { c with compiled := c.compiled + 1 })

/-- The statement of a query, and the compiler afterwards. -/
def compile (c : Compiler) (q : Query) : Except CompileError (Compiled × Compiler) :=
  if q.values.all Value.isHashable then
    match c.find? q with
    | some x => .ok (x, c)
    | none => do
      let (x, c) ← c.compileAnew q
      return (x, c.keep q x)
  else c.compileAnew q

end Compiler

end RecordMapper
