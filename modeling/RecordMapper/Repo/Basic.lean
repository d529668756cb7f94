import RecordMapper.Entity
import RecordMapper.Query.Basic
import RecordMapper.Sql.Cache
import RecordMapper.Sql.Write
import RecordMapper.Store.Basic

/-! # Repositories

A repository compiles queries for one store, executes them there and reads the rows back as
entities. -/

namespace RecordMapper

/-- Why a call of a repository fails: one of its parts does, there are more rows than one, a schema,
column or function is not there, there is nothing to aggregate, or an entity was never stored; the
word says what was to be done to it. -/
inductive RepoError where
  | compile (e : CompileError)
  | lookup (e : LookupError)
  | build (e : BuildError)
  | cast (e : CastError)
  | entity (e : EntityError)
  | deadline (e : DeadlineError)
  | store (e : StoreFault)
  | manyResults (count : Nat)
  | unknownSchema (name : String)
  | noColumn (name : String)
  | unknownAggregate (name : String)
  | nothingToAggregate (name : String)
  | neverStored (word schema : String)

namespace RepoError

/-- The error that there is no statement. -/
def ofWrite : WriteError → RepoError
  | .lookup e => .lookup e
  | .compile e => .compile e

/-- The text of an error of the repository itself; the others have their own. -/
def message : RepoError → String
  | .manyResults count => s!"Expected at most one result, got {count}"
  | .unknownSchema name => s!"Unknown schema: {name}"
  | .noColumn name => name
  | .unknownAggregate name => s!"Unknown aggregate '{name}'"
  | .nothingToAggregate name => s!"{name} needs a field to aggregate"
  | .neverStored word schema => s!"Cannot {word} a {schema} that was never stored"
  | _ => ""

end RepoError

/-- A repository. A call that has no deadline of its own may take so many seconds, without a limit
for `null`. -/
structure Repo (σ : Type) where
  store : Store σ
  registry : Registry
  timeout : Value

/-- The state of a repository: the compiler with what it keeps, and the state of the store. -/
structure RepoState (σ : Type) where
  compiler : Compiler
  store : σ

/-- A call of a repository. -/
abbrev RepoCall (σ α : Type) := Procedure (RepoState σ) RepoError α

/-- One of the things that a query reads: a record of a schema, or a row. -/
inductive Record where
  | entity (e : Entity)
  | row (r : Row Value)

namespace Repo

variable {σ : Type}

/-- The state of a repository that was not used yet. -/
def start (repo : Repo σ) (dialect : Dialect) (s : σ) : RepoState σ :=
  ⟨.new (some repo.registry) dialect Compiler.defaultCapacity, s⟩

/-- The store within the repository. -/
def storeWithin (repo : Repo σ) : Store (RepoState σ) :=
  repo.store.within RepoState.store fun s r => { r with store := s }

/-- The deadline of a call: its own, or one that the timeout sets. -/
def deadlineOf (repo : Repo σ) (own : Option Deadline) (m : Moment) :
    Except RepoError (Option Deadline) :=
  match own with
  | some d => .ok (some d)
  | none =>
    if repo.timeout.isNull then .ok none
    else ((Deadline.after m repo.timeout false).mapError .deadline).map some

/-- Executes a statement. -/
def execute (repo : Repo σ) (s : Statement) (own : Option Deadline) :
    RepoCall σ (List (Row Value)) := do
  let now ← .read repo.storeWithin.moment
  let deadline ← .ofExcept (repo.deadlineOf own now)
  (repo.storeWithin.execute s deadline).adapt .store

/-- The statement of a query. -/
def compile (q : Query) : RepoCall σ Statement :=
  .ofFunction fun r =>
    match r.compiler.compile q with
    | .ok (x, compiler) => (.ok x.statement, { r with compiler })
    | .error e => (.error (.compile e), r)

/-- The dialect of the store. -/
def dialect : RepoCall σ Dialect := .read fun r => r.compiler.dialect

/-- What rows are: records of the schema, if there is one. -/
def decode (repo : Repo σ) (source : Option String) (rows : List (Row Value)) :
    Except RepoError (List Record) :=
  match source with
  | none => .ok (rows.map .row)
  | some name => do
    let d ← (repo.registry.get name).mapError .lookup
    let es ← (rows.mapM (Entity.load d)).mapError .cast
    return es.map .entity

/-- All that a query reads: records where it reads all stored fields of a schema, and rows
otherwise. -/
def all (repo : Repo σ) (q : Query) (own : Option Deadline) :
    RepoCall σ (List Record) := do
  let s ← compile q
  let rows ← repo.execute s own
  Procedure.ofExcept (repo.decode s.source rows)

/-- What a query of at most one row reads. -/
def one (repo : Repo σ) (q : Query) (own : Option Deadline) :
    RepoCall σ (Option Record) := do
  let records ← repo.all q own
  if records.length > 1 then throw (.manyResults records.length) else return records.head?

/-- The query of the record of a key. -/
def keyQuery (d : Descriptor) (key : Value) : Query :=
  ⟨.source d.name "r",
    [.filter (.binary .eq (.field "r" d.primaryKey) (.ofValue key)) false .and]⟩

/-- The record of a key. -/
def get (repo : Repo σ) (d : Descriptor) (key : Value) (own : Option Deadline) :
    RepoCall σ (Option Record) :=
  repo.one (keyQuery d key) own

/-- The schema of a name or a relation. -/
def schema (repo : Repo σ) (name : String) : Except RepoError Descriptor :=
  match repo.registry.resolve name with
  | .ok (some d) => .ok d
  | .ok none => .error (.unknownSchema name)
  | .error e => .error (.lookup e)

/-- The name of the column of an aggregate. -/
def valueColumn : String := "value"

/-- The query of an aggregate of the rows that a query reads. -/
def aggregateQuery (q : Query) (function : String) (operand : Option Term) :
    Except RepoError Query := do
  let f ← match AggregateFunction.ofWord function with
    | .other _ => throw (.unknownAggregate function)
    | f => pure f
  if operand.isNone ∧ f ≠ .count then throw (.nothingToAggregate function)
  let operand ← (operand.mapM Term.pathOrTerm).mapError .build
  return q.add (.select [.alias (.aggregate f operand false) valueColumn])

/-- An aggregate of the rows that a query reads. -/
def aggregate (repo : Repo σ) (q : Query) (function : String) (operand : Option Term)
    (own : Option Deadline) : RepoCall σ Value := do
  let q ← .ofExcept (aggregateQuery q function operand)
  let s ← compile q
  let rows ← repo.execute s own
  match rows with
  | [] => return .null
  | row :: _ =>
    match row.find? valueColumn with
    | some v => return v
    | none => throw (.noColumn valueColumn)

/-- Executes a statement that writes many rows, and says how many. -/
def countRows (repo : Repo σ)
    (statement : Option Registry → Dialect → Except CompileError Statement)
    (own : Option Deadline) : RepoCall σ Nat := do
  let d ← dialect
  let s ← .ofExcept ((statement (some repo.registry) d).mapError .compile)
  let rows ← repo.execute s own
  return rows.length

/-- Removes the rows of a query, and says how many. -/
def deleteAll (repo : Repo σ) (q : Query) (own : Option Deadline) :
    RepoCall σ Nat :=
  repo.countRows (fun r d => q.compileDeleteAll r d) own

/-- Changes the rows of a query, and says how many. -/
def updateAll (repo : Repo σ) (q : Query) (values : Row Term) (own : Option Deadline) :
    RepoCall σ Nat :=
  repo.countRows (fun r d => q.compileUpdateAll r d values) own

/-- Runs a body in a transaction of the store. -/
def transaction {α : Type} (repo : Repo σ) (body : RepoCall σ α) :
    RepoCall σ α :=
  repo.storeWithin.transaction .store body

end Repo

end RecordMapper
