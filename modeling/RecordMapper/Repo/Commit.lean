import RecordMapper.Changeset.Stage
import RecordMapper.Repo.Basic

/-! # Commits

A commit sends the changes of a changeset to the store in one statement. What is found wrong never
gets there; a violation of a declared constraint comes back as an error of the field. -/

namespace RecordMapper

/-- The outcome of a commit: the stored record, unless it was refused, and what was submitted, with
the errors that came up. -/
structure Commit where
  entity : Option Entity
  changeset : Changeset

namespace Commit

/-- Whether the record is stored. -/
def succeeded (c : Commit) : Bool := c.entity.isSome && c.changeset.isValid

end Commit

namespace Changeset

/-- A changeset submitted for an action. -/
def submittedFor (c : Changeset) (action : Action) : Changeset := { c with action := some action }

/-- The action that a changeset asks for: its own, or the one that its entity needs. -/
def intendedAction (c : Changeset) : Action :=
  c.action.getD (if c.data.isStored then .update else .insert)

/-- The values that a new record is stored with: those of stored fields that are there. -/
def newRecord (schema : Descriptor) (applied : Entity) : Row Value :=
  schema.stored.filterMap fun f =>
    (applied.find? f.name).bind fun v => if v.isNull then none else some (f.name, v)

/-- The changes of stored fields. -/
def storedChanges (c : Changeset) : Row Value :=
  c.changes.filter fun x => (c.schema.stored.map Field.name).contains x.1

/-- What a store fails with when a record is not there. -/
def noRows (c : Changeset) : StorageError :=
  let word := (c.action.map Action.name).getD "commit"
  let schema := c.schema.name
  .plain .unknown s!"{word} of {schema} affected no rows (stale entity?)"

end Changeset

namespace Entity

/-- An entity with the values that a row of the store has for stored fields. -/
def mergeRow (e : Entity) (row : Row Value) (origin : Origin) : Except RepoError Entity := do
  let stored ← (loadFields row e.schema.stored).mapError .cast
  (e.replace stored (some origin)).mapError .entity

end Entity

namespace Repo

variable {σ : Type}

/-- Answers a failure of the store: a declared constraint becomes an error of its field. -/
def refused (c : Changeset) (e : RepoError) : Except RepoError Commit :=
  match e with
  | .store (.storage s) =>
    match c.addViolation? s with
    | some changeset => .ok ⟨none, changeset⟩
    | none => .error e
  | e => .error e

/-- Sends a statement, and merges the row that comes back into an entity. -/
def send (repo : Repo σ) (c : Changeset) (s : Statement) (applied : Entity) (origin : Origin)
    (own : Option Deadline) : RepoCall σ Commit := do
  match ← (repo.execute s own).attempt with
  | .error e => Procedure.ofExcept (refused c e)
  | .ok [] => throw (.store (.storage c.noRows))
  | .ok (row :: _) => do
    let entity ← .ofExcept (applied.mergeRow row origin)
    return ⟨some entity, c⟩

/-- A statement that writes. -/
def written (s : Except WriteError Statement) : RepoCall σ Statement :=
  .ofExcept (s.mapError .ofWrite)

/-- The entity with its changes. -/
def applied (c : Changeset) : RepoCall σ Entity := .ofExcept (c.apply.mapError .entity)

/-- Stores a new record. -/
def insert (repo : Repo σ) (c : Changeset) (own : Option Deadline) :
    RepoCall σ Commit := do
  let c := c.submittedFor .insert
  if !c.isValid then return ⟨none, c⟩
  let applied ← applied c
  let d ← dialect
  let s ← written (c.schema.insertion d (Changeset.newRecord c.schema applied))
  repo.send c s applied .loaded own

/-- Changes a stored record; without a change of a stored field, nothing is sent. -/
def update (repo : Repo σ) (c : Changeset) (own : Option Deadline) :
    RepoCall σ Commit := do
  let c := c.submittedFor .update
  if !c.isValid then return ⟨none, c⟩
  if !c.data.isStored then throw (.neverStored "update" c.schema.name)
  let applied ← applied c
  if c.storedChanges.isEmpty then return ⟨some applied, c⟩
  let d ← dialect
  let s ← written (c.schema.change d c.data.key c.storedChanges)
  repo.send c s applied .loaded own

/-- Removes a stored record. -/
def delete (repo : Repo σ) (c : Changeset) (own : Option Deadline) :
    RepoCall σ Commit := do
  let c := c.submittedFor .delete
  if !c.isValid then return ⟨none, c⟩
  if !c.data.isStored then throw (.neverStored "delete" c.schema.name)
  let d ← dialect
  repo.send c (c.schema.removal d c.data.key) c.data .deleted own

/-- Inserts, updates or deletes, as the changeset asks for. -/
def commit (repo : Repo σ) (c : Changeset) (own : Option Deadline) :
    RepoCall σ Commit :=
  match c.intendedAction with
  | .insert => repo.insert c own
  | .update => repo.update c own
  | .delete => repo.delete c own

end Repo

end RecordMapper
