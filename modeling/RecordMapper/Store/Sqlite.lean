import RecordMapper.Cast
import RecordMapper.Store.Basic
import RecordMapper.Text.Blank
import RecordMapper.Text.Cut

/-! # The store of SQLite

Statements run on a connection that commits each of them on its own. The outermost transaction is
one of the connection, and those within it are savepoints. Errors of the connection become failures
of the store, with the name of the constraint where it can be found. -/

namespace RecordMapper

/-- The settings of a store of SQLite: its connection, and after how many instructions a statement
asks whether to go on. -/
structure Sqlite (σ : Type) where
  connection : Connection σ
  interval : Int

/-- The state of a store of SQLite, and how many transactions are open, one within the other. -/
structure SqliteState (σ : Type) where
  connection : σ
  depth : Nat

namespace Sqlite

variable {σ : Type}

/-- The path of a database in memory. -/
def inMemory : String := ":memory:"

/-- After how many instructions a statement asks whether to go on, unless it is said. -/
def defaultInterval : Int := 1000

/-! ## The connection -/

/-- A step on the connection. -/
def onConnection {α : Type} (f : σ → α × σ) : SqliteState σ → α × SqliteState σ := fun s =>
  let (a, c) := f s.connection
  (a, { s with connection := c })

/-- Executes a statement without values. -/
def command (q : Sqlite σ) (text : String) :
    Procedure (SqliteState σ) ConnectionError Cursor :=
  .ofFunction fun s =>
    let (reply, after) := onConnection (q.connection.execute text []) s
    (reply.result, after)

/-! ## Indexes -/

/-- The name of a unique index in a row of an index list. -/
def uniqueIndex? : List Value → Option Value
  | _ :: name :: unique :: _ => if unique.isFalsy then none else some name
  | _ => none

/-- The column in a row of an index description. -/
def indexColumn : List Value → Value
  | _ :: _ :: column :: _ => column
  | _ => .null

/-- Whether SQLite made the name of the index itself. -/
def isAutomatic (name : String) : Bool :=
  Text.startsWith "sqlite_autoindex_".toList name.toList

/-- The index to name out of those that fit: one with a name of its own before all others. -/
def preferred (names : List String) : Option String :=
  (names.find? fun n => !isAutomatic n).orElse fun _ => names.head?

/-- The names of the indexes that cover exactly the columns, in their order. -/
def covering (q : Sqlite σ) (columns : List String) :
    List String → Procedure (SqliteState σ) ConnectionError (List String)
  | [] => pure []
  | name :: names => do
    let info ← q.command s!"PRAGMA index_info(\"{name}\")"
    let rest ← q.covering columns names
    return if Value.equal (.list (info.rows.map indexColumn)) (.list (columns.map .string))
      then name :: rest else rest

/-- The text of a name. -/
def nameText : Value → String
  | .string s => s
  | v => v.plainText

/-- The name of the unique index of a table that covers exactly the columns, in their order. -/
def uniqueIndexName (q : Sqlite σ) (table : String) (columns : List String) :
    Procedure (SqliteState σ) ConnectionError (Option String) := do
  let list ← q.command s!"PRAGMA index_list(\"{table}\")"
  let names := (list.rows.filterMap uniqueIndex?).map nameText
  return preferred (← q.covering columns names)

/-! ## Failures -/

/-- The columns that a message about a unique constraint names, each after its table. -/
def qualifiedColumns (listed : List Char) : List (List Char) :=
  (Text.splitAt ',' listed).map Text.trim

/-- The failure that a broken rule is. -/
def violation (q : Sqlite σ) (message : String) :
    Procedure (SqliteState σ) ConnectionError StorageError := do
  let text := message.toList
  let lineAfter (mark : String) : Option String :=
    (Text.lineAfter? mark.toList text).map String.ofList
  match Text.lineAfter? "UNIQUE constraint failed: ".toList text with
  | some listed =>
    let qualified := qualifiedColumns listed
    let table := String.ofList (Text.before '.' (qualified.headD []))
    let columns := qualified.map fun c => String.ofList (Text.after '.' c)
    let name ← q.uniqueIndexName table columns
    return .violation name (some "unique") (some message)
  | none =>
    match lineAfter "CHECK constraint failed: " with
    | some name => return .violation (some name) (some "check") (some message)
    | none =>
      if Text.holds "FOREIGN KEY constraint failed".toList text then
        return .violation none (some "foreign_key") (some message)
      else
        match lineAfter "NOT NULL constraint failed: " with
        | some column => return .violation (some column) (some "not_null") (some message)
        | none => return .violation none none (some message)

/-- The failure that an error of the connection is. -/
def failure (q : Sqlite σ) (e : ConnectionError) :
    Procedure (SqliteState σ) ConnectionError StorageError :=
  if e.kind = .integrity then q.violation e.message
  else if e.kind = .operational ∧ Text.holds "unable to open".toList e.message.toList then
    return .plain .connection e.message
  else return .plain .unknown e.message

/-- Fails as an error of the connection says. -/
def fail {α : Type} (q : Sqlite σ) (e : ConnectionError) :
    Procedure (SqliteState σ) StoreFault α := do
  let failure ← (q.failure e).adapt .connection
  throw (.storage failure)

/-- Executes a statement that controls transactions. -/
def control (q : Sqlite σ) (text : String) : Procedure (SqliteState σ) StoreFault Unit := do
  match ← (q.command text).attempt with
  | .ok _ => return ()
  | .error e => q.fail e

/-! ## Statements -/

/-- The rows of a cursor by column; where two columns have one name, the last one counts. -/
def rowsOf (c : Cursor) : List (Row Value) :=
  match c.columns with
  | none => []
  | some names => c.rows.map fun row => Row.overlay [] (names.zip row)

/-- Installs the question whether to give up, or takes it away. -/
def watch (q : Sqlite σ) (interval : Int) (question : Option (Moment → Bool)) :
    Procedure (SqliteState σ) StoreFault Unit :=
  .change fun s => { s with connection := q.connection.watch interval question s.connection }

/-- Executes a statement; when it fails after it was told to give up, the reason is the failure. -/
def run (q : Sqlite σ) (text : String) (parameters : List Parameter)
    (verdict? : Moment → Option StorageError) :
    Procedure (SqliteState σ) StoreFault (List (Row Value)) := do
  let reply ← .ofFunction fun s =>
    let (reply, after) := onConnection (q.connection.execute text parameters) s
    (.ok reply, after)
  match reply.result with
  | .ok cursor => return rowsOf cursor
  | .error e =>
    match reply.asked.findSome? verdict? with
    | some reason => throw (.storage reason)
    | none => q.fail e

/-- Executes a statement under a deadline, which is asked for from time to time meanwhile. -/
def runUnder (q : Sqlite σ) (text : String) (parameters : List Parameter) (d : Deadline) :
    Procedure (SqliteState σ) StoreFault (List (Row Value)) := do
  let now ← .read fun s => q.connection.moment s.connection
  match d.verdict? now with
  | some reason => throw (.storage reason)
  | none => do
    q.watch q.interval (some fun m => (d.verdict? m).isSome)
    let outcome ← (q.run text parameters d.verdict?).attempt
    q.watch 0 none
    Procedure.ofExcept outcome

/-- A parameter in the form in which it is stored. -/
def stored : Parameter → Except Json.WriteError Parameter
  | .value v => v.dump.map .value
  | .item t => .ok (.item t)

/-- A parameter in the form in which it is stored, if it has one. -/
def stored? (p : Parameter) : Option Parameter := (stored p).toOption

@[simp] theorem stored?_value (v : Value) : stored? (.value v) = v.dump?.map .value := by
  rw [stored?, stored, Value.dump?]
  cases v.dump <;> rfl

/-- Executes a statement with its parameters in the form in which they are stored. -/
def execute (q : Sqlite σ) (s : Statement) (d : Option Deadline) :
    Procedure (SqliteState σ) StoreFault (List (Row Value)) :=
  match s.parameters.mapM stored with
  | .error cause => throw (.notStorable cause)
  | .ok parameters =>
    match d with
    | none => q.run s.text parameters fun _ => none
    | some d => q.runUnder s.text parameters d

/-- Executes several statements at once. -/
def script (q : Sqlite σ) (text : String) : Procedure (SqliteState σ) StoreFault Unit := do
  let reply ← .ofFunction fun s =>
    let (reply, after) := onConnection (q.connection.script text) s
    (.ok reply, after)
  match reply.result with
  | .ok _ => return ()
  | .error e => q.fail e

/-! ## Transactions -/

/-- The savepoint of a transaction within as many others. -/
def savepoint (depth : Nat) : String := s!"\"typed_records_{depth}\""

/-- Changes the number of open transactions. -/
def setDepth (depth : Nat) : Procedure (SqliteState σ) StoreFault Unit :=
  .change fun s => { s with depth }

/-- Begins a transaction. -/
def begin (q : Sqlite σ) : Procedure (SqliteState σ) StoreFault Unit := do
  let depth ← .read SqliteState.depth
  let name := savepoint depth
  q.control (if depth = 0 then "BEGIN" else s!"SAVEPOINT {name}")
  setDepth (depth + 1)

/-- Takes the work of the innermost transaction back. -/
def rollback (q : Sqlite σ) : Procedure (SqliteState σ) StoreFault Unit := do
  let open' ← .read SqliteState.depth
  let depth := open' - 1
  let name := savepoint depth
  setDepth depth
  if depth = 0 then q.control "ROLLBACK"
  else do
    q.control s!"ROLLBACK TO SAVEPOINT {name}"
    q.control s!"RELEASE SAVEPOINT {name}"

/-- Ends the outermost transaction; when that is refused and the transaction is still open, its work
is taken back. -/
def commitOutermost (q : Sqlite σ) : Procedure (SqliteState σ) StoreFault Unit := do
  match ← (q.command "COMMIT").attempt with
  | .ok _ => return ()
  | .error e => do
    let isOpen ← .read fun s => q.connection.inTransaction s.connection
    if isOpen then
      let _ ← (q.command "ROLLBACK").adapt StoreFault.connection
    q.fail e

/-- Keeps the work of the innermost transaction. -/
def commit (q : Sqlite σ) : Procedure (SqliteState σ) StoreFault Unit := do
  let open' ← .read SqliteState.depth
  let depth := open' - 1
  let name := savepoint depth
  setDepth depth
  if depth = 0 then q.commitOutermost else q.control s!"RELEASE SAVEPOINT {name}"

/-- The store. -/
def store (q : Sqlite σ) : Store (SqliteState σ) where
  moment s := q.connection.moment s.connection
  execute := q.execute
  begin := q.begin
  commit := q.commit
  rollback := q.rollback

/-! ## Opening -/

/-- The failure to open a database. -/
def notOpened (path : String) (e : ConnectionError) : StorageError :=
  let message := e.message
  .plain .connection s!"Cannot open database '{path}': {message}"

/-- The state of a store on a connection that was just made; foreign keys are to be enforced. -/
def start (q : Sqlite σ) (s : σ) : Except ConnectionError (SqliteState σ) :=
  match (q.command "PRAGMA foreign_keys=ON").runFrom ⟨s, 0⟩ with
  | (.ok _, after) => .ok after
  | (.error e, _) => .error e

/-- Closes the connection. -/
def close (q : Sqlite σ) (s : SqliteState σ) : SqliteState σ :=
  { s with connection := q.connection.close s.connection }

end Sqlite

end RecordMapper
