/-! # Failures of a store -/

namespace RecordMapper

/-- What kind of failure a store reports: it cannot be reached, time is up, the call was given up, a
rule that it enforces is broken, or anything else. -/
inductive StorageFailure where
  | connection
  | timeout
  | cancelled
  | constraintViolation
  | unknown
deriving DecidableEq, Repr

namespace StorageFailure

/-- The word for a kind of failure. -/
def name : StorageFailure → String
  | .connection => "connection"
  | .timeout => "timeout"
  | .cancelled => "cancelled"
  | .constraintViolation => "constraint_violation"
  | .unknown => "unknown"

/-- The kind of failure of a word. -/
def ofName? (s : String) : Option StorageFailure :=
  [connection, timeout, cancelled, constraintViolation, unknown].find? (·.name == s)

end StorageFailure

/-- A failure of a store, with the kind and the name of the constraint that is violated, if the
store says so. -/
structure StorageError where
  message : String
  kind : StorageFailure
  constraintType : Option String
  constraintName : Option String
deriving DecidableEq, Repr

namespace StorageError

/-- A failure that is no violation. -/
def plain (kind : StorageFailure) (message : String) : StorageError :=
  ⟨message, kind, none, none⟩

/-- What is said in place of what is not given. -/
def notGiven : String := "None"

/-- The text for a violation of which the store says no more than a name. -/
def violationMessage (name : Option String) : String :=
  let shown := name.getD notGiven
  s!"Constraint violated: {shown}"

/-- A violated constraint. -/
def violation (name type message : Option String) : StorageError :=
  ⟨message.getD (violationMessage name), .constraintViolation, type, name⟩

/-- Time is up. -/
def timeout : StorageError := plain .timeout "Deadline exceeded"

/-- The call was given up. -/
def cancelled : StorageError := plain .cancelled "Operation cancelled"

/-- A failure of a kind. Where the message is not given it is the one of the kind, and only a
violation has to do with a constraint. -/
def ofKind (kind : StorageFailure) (name type message : Option String) : StorageError :=
  match kind with
  | .constraintViolation => violation name type message
  | .timeout => plain kind (message.getD timeout.message)
  | .cancelled => plain kind (message.getD cancelled.message)
  | _ => plain kind (message.getD notGiven)

/-- Whether a constraint is violated. -/
def isViolation (e : StorageError) : Bool := e.kind = .constraintViolation

end StorageError

end RecordMapper
