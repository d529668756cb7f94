import RecordMapper.Store.Connection
import RecordMapper.Text.Blank
import RecordMapper.Text.Cut

/-! # A connection that follows a script

A connection without a database: it notes what it is told, keeps track of whether a transaction is
open, and answers all other statements from a queue. Time passes while a statement runs, as the
script says. -/

namespace RecordMapper

/-- How a statement is to run: how often it asks whether to go on, how much time passes before each
question, before which one the token is used, and the error that it ends with or the rows that it
gives otherwise. -/
structure Scene where
  ticks : Nat
  pace : Seconds
  cancelAt : Option Int
  error : Option ConnectionError
  cursor : Cursor

namespace Scene

/-- A statement without rows. -/
def empty : Scene := ⟨0, .whole 0, none, none, .empty⟩

end Scene

/-- An error that a statement of transaction control with a certain start ends with, and whether the
open transaction ends with it. -/
structure Obstacle where
  start : String
  error : ConnectionError
  closes : Bool

/-- An index of a table. -/
structure Index where
  name : String
  unique : Value
  columns : List Value

/-- What a connection was told: to execute one statement or several, to ask every so many
instructions whether to go on or no longer, or to close. -/
inductive Told where
  | statement (text : String) (parameters : List Parameter)
  | script (text : String)
  | watch (interval : Int)
  | close

/-- The state of a connection that follows a script: what it was told, how the next statements are
to run, the errors that are still to come, the indexes by table, and what is asked whether to give
up. -/
structure Script where
  moment : Moment
  log : List Told
  queue : List Scene
  obstacles : List Obstacle
  indexes : Row (List Index)
  isOpen : Bool
  question : Option (Moment → Bool)

namespace Script

/-- A connection that was told nothing yet. -/
def start (moment : Moment) (obstacles : List Obstacle) (indexes : Row (List Index)) : Script :=
  ⟨moment, [], [], obstacles, indexes, false, none⟩

/-- Queues a scene. -/
def push (s : Script) (scene : Scene) : Script := { s with queue := s.queue ++ [scene] }

/-- Notes what the connection is told. -/
def note (s : Script) (t : Told) : Script := { s with log := s.log ++ [t] }

/-- The moment of a question. -/
def tick (scene : Scene) (i : Nat) (m : Moment) : Moment :=
  let m := if scene.cancelAt = some (i : Int) then m.cancel else m
  match m.advance scene.pace with
  | .ok later => later
  | .error _ => m

/-- The moments of the next questions, until one of them is answered with giving up. -/
def ticks (scene : Scene) (question : Option (Moment → Bool)) :
    Nat → Nat → Moment → List Moment × Bool × Moment
  | 0, _, m => ([], false, m)
  | n + 1, i, m =>
    let m := tick scene i m
    match question with
    | none => ticks scene question n (i + 1) m
    | some givesUp =>
      if givesUp m then ([m], true, m)
      else
        let (asked, stopped, last) := ticks scene question n (i + 1) m
        (m :: asked, stopped, last)

/-- The error of a statement that was told to give up. -/
def interrupted : ConnectionError := ⟨.operational, "interrupted"⟩

/-- Runs the next scene. -/
def play (s : Script) : Reply × Script :=
  let scene := s.queue.head?.getD .empty
  let (asked, stopped, moment) := ticks scene s.question scene.ticks 0 s.moment
  let result :=
    if stopped then .error interrupted
    else
      match scene.error with
      | some e => .error e
      | none => .ok scene.cursor
  (⟨asked, result⟩, { s with queue := s.queue.tail, moment })

/-- Takes the first obstacle out that a statement meets. -/
def meet (text : String) : List Obstacle → Option (Obstacle × List Obstacle)
  | [] => none
  | o :: os =>
    if Text.startsWith o.start.toList text.toList then some (o, os)
    else (meet text os).map fun found => (found.1, o :: found.2)

/-- The name in quotes after a text, up to the end of the statement. -/
def argument? (start text : String) : Option String :=
  (Text.afterStart? (start ++ "(\"").toList text.toList).map fun rest =>
    String.ofList (rest.take (rest.length - 2))

/-- The rows that describe the indexes of a table. -/
def listRows (is : List Index) : List (List Value) :=
  is.zipIdx.map fun (i, n) =>
    [.int n, .string i.name, i.unique, .string "c", .int 0]

/-- The rows that describe the columns of an index. -/
def infoRows (columns : List Value) : List (List Value) :=
  columns.zipIdx.map fun (c, n) => [.int n, .int n, c]

/-- What is known about indexes. -/
def describe (s : Script) (text : String) : Cursor :=
  match argument? "PRAGMA index_list" text, argument? "PRAGMA index_info" text with
  | some table, _ => ⟨none, listRows ((s.indexes.find? table).getD [])⟩
  | none, some name =>
    let all := s.indexes.flatMap Prod.snd
    ⟨none, infoRows (((all.find? (·.name == name)).map Index.columns).getD [])⟩
  | none, none => .empty

/-- The words that statements of control begin with. -/
def controlWords : List String := ["PRAGMA", "BEGIN", "SAVEPOINT", "RELEASE", "COMMIT", "ROLLBACK"]

/-- The first word of a statement. -/
def firstWord (text : String) : String :=
  String.ofList ((text.toList.dropWhile Text.isBlank).takeWhile fun c => !Text.isBlank c)

/-- Whether a transaction is open after a statement. -/
def opens (text : String) (isOpen : Bool) : Bool :=
  if firstWord text = "BEGIN" then true
  else if text = "COMMIT" ∨ text = "ROLLBACK" then false
  else isOpen

/-- Answers a statement. -/
def answer (s : Script) (text : String) : Reply × Script :=
  match meet text s.obstacles with
  | some (o, obstacles) =>
    (⟨[], .error o.error⟩, { s with obstacles, isOpen := s.isOpen && !o.closes })
  | none =>
    if controlWords.contains (firstWord text) then
      (⟨[], .ok (s.describe text)⟩, { s with isOpen := opens text s.isOpen })
    else s.play

/-- The connection. -/
def connection : Connection Script where
  moment := moment
  execute text parameters s := (s.note (.statement text parameters)).answer text
  script text s := (s.note (.script text)).play
  inTransaction := isOpen
  watch interval question s := { s.note (.watch interval) with question }
  close s := s.note .close

end Script

end RecordMapper
