import RecordMapper.Json.Writer
import RecordMapper.Sql.Statement
import RecordMapper.Store.Connection
import RecordMapper.Store.Deadline
import RecordMapper.Store.Error
import RecordMapper.Store.Procedure

/-! # Stores

A store executes statements and scopes them by transactions. Nothing else is known of it: laws about
what reaches a store hold for every one. -/

namespace RecordMapper

/-- Why a store gives no rows: it reports a failure, a parameter has no form that can be stored, or
the connection fails while a failure is being looked into. -/
inductive StoreFault where
  | storage (e : StorageError)
  | notStorable (cause : Json.WriteError)
  | connection (e : ConnectionError)

/-- A store with states of type `σ`. Deadlines are held against its moment. A transaction begins
within the ones that are open, and the innermost one ends with its work kept or taken back. -/
structure Store (σ : Type) where
  moment : σ → Moment
  execute : Statement → Option Deadline → Procedure σ StoreFault (List (Row Value))
  begin : Procedure σ StoreFault Unit
  commit : Procedure σ StoreFault Unit
  rollback : Procedure σ StoreFault Unit

namespace Store

variable {σ τ ε α : Type}

/-- The store as a part of a larger state. -/
def within (store : Store σ) (get : τ → σ) (set : σ → τ → τ) : Store τ where
  moment t := store.moment (get t)
  execute s d := (store.execute s d).within get set
  begin := store.begin.within get set
  commit := store.commit.within get set
  rollback := store.rollback.within get set

/-- Runs a body in a transaction: its work is kept when it ends, and taken back when it fails. -/
def transaction (store : Store σ) (fault : StoreFault → ε) (body : Procedure σ ε α) :
    Procedure σ ε α := do
  store.begin.adapt fault
  match ← body.attempt with
  | .ok a => do
    store.commit.adapt fault
    return a
  | .error e => do
    store.rollback.adapt fault
    throw e

end Store

end RecordMapper
