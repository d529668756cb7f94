import RecordMapper.Store.Basic
import RecordMapper.Text.Cut

/-! # A store that replays answers

A store without a database: it notes what it is to execute and answers from a queue, or from a rule
that looks at the statement. Transactions are counted only. -/

namespace RecordMapper

/-- An answer of a store. -/
abbrev Response := Except StorageError (List (Row Value))

/-- The state of a replaying store: what was to be executed, the answers that are left or a rule in
place of them, and how many transactions were kept and taken back. -/
structure Replay where
  moment : Moment
  executed : List Statement
  queue : List Response
  rule : Option (Statement → Response)
  commits : Nat
  rollbacks : Nat

namespace Replay

/-- The rule that answers by what a statement begins with: the first beginning that fits counts, and
there are no rows when none does. -/
def byStart (answers : List (String × Response)) (s : Statement) : Response :=
  ((answers.find? fun a => Text.startsWith a.1.toList s.text.toList).map Prod.snd).getD (.ok [])

/-- A store that was not used yet. -/
def start (moment : Moment) (queue : List Response) (rule : Option (Statement → Response)) :
    Replay :=
  ⟨moment, [], queue, rule, 0, 0⟩

/-- Queues an answer. -/
def push (r : Replay) (answer : Response) : Replay := { r with queue := r.queue ++ [answer] }

/-- Notes a statement. -/
def note (r : Replay) (s : Statement) : Replay := { r with executed := r.executed ++ [s] }

/-- The next answer: that of the rule, or else the first one queued; no rows when there is none. -/
def answer (r : Replay) (s : Statement) : Response × Replay :=
  match r.rule, r.queue with
  | some rule, _ => (rule s, r)
  | none, next :: queue => (next, { r with queue })
  | none, [] => (.ok [], r)

/-- Notes a statement and answers it, unless a deadline says to give up. -/
def execute (s : Statement) (d : Option Deadline) (r : Replay) :
    Except StoreFault (List (Row Value)) × Replay :=
  let noted := r.note s
  match d.bind (·.verdict? r.moment) with
  | some e => (.error (.storage e), noted)
  | none =>
    let (response, after) := noted.answer s
    (response.mapError .storage, after)

/-- The replaying store. -/
def store : Store Replay where
  moment := moment
  execute s d := .ofFunction (execute s d)
  begin := pure ()
  commit := .change fun r => { r with commits := r.commits + 1 }
  rollback := .change fun r => { r with rollbacks := r.rollbacks + 1 }

end Replay

end RecordMapper
