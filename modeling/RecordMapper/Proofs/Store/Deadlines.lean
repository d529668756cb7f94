import RecordMapper.Proofs.Store.Sqlite
import RecordMapper.Store.Script

/-! # Calls under deadlines

A call whose deadline is up before it begins reaches no connection, and a statement that fails after
it was told to give up fails with the reason it was given up for first. However a call ends, the
connection is asked nothing any more. A run is made of calls and of what happens in between, and the
connection is any one at all; an observer beside it notes what it is told. -/

namespace RecordMapper

open Procedure

variable {σ : Type}

/-! ## Deadlines -/

namespace Deadline

variable {d : Deadline} {m : Moment}

theorem verdict?_of_isCancelled (h : d.isCancelled m = true) :
    d.verdict? m = some .cancelled := by
  rw [verdict?, if_pos h]

theorem verdict?_of_isExpired (hcancelled : d.isCancelled m = false)
    (h : d.isExpired m = true) : d.verdict? m = some .timeout := by
  rw [verdict?, hcancelled, h]
  rfl

end Deadline

/-! ## Observed connections -/

/-- The state of a connection beside which an observer stands, the statements that it was sent, and
what it asks whether to give up. -/
structure Observed (σ : Type) where
  connection : σ
  sent : List String
  question : Option (Moment → Bool)

/-- A connection whose observer notes what it is told. -/
def Connection.observed (c : Connection σ) : Connection (Observed σ) where
  moment s := c.moment s.connection
  execute text parameters s :=
    let (reply, after) := c.execute text parameters s.connection
    (reply, { s with connection := after, sent := s.sent ++ [text] })
  script text s :=
    let (reply, after) := c.script text s.connection
    (reply, { s with connection := after, sent := s.sent ++ [text] })
  inTransaction s := c.inTransaction s.connection
  watch interval question s :=
    { s with connection := c.watch interval question s.connection, question }
  close s := { s with connection := c.close s.connection }

namespace Sqlite

/-- A store on an observed connection. -/
def observed (q : Sqlite σ) : Sqlite (Observed σ) := { q with connection := q.connection.observed }

/-- What the connection of a store asks whether to give up, if anything. -/
def question (s : SqliteState (Observed σ)) : Option (Moment → Bool) := s.connection.question

variable (q : Sqlite σ)

theorem keeps_question_run (text : String) (parameters : List Parameter)
    (verdict? : Moment → Option StorageError) :
    Keeps question (q.observed.run text parameters verdict?) :=
  keeps_run (fun _ _ _ => rfl) (fun _ _ => rfl) parameters verdict?

/-! ## One call -/

/-- After a call the connection asks nothing if it asked nothing before. -/
theorem question_execute (st : Statement) (d : Option Deadline) {s : SqliteState (Observed σ)}
    (hs : question s = none) : question ((q.observed.execute st d).runFrom s).2 = none := by
  unfold execute
  split
  · exact hs
  · rename_i parameters _
    cases d with
    | none => exact (q.keeps_question_run st.text parameters _ s).trans hs
    | some d =>
        dsimp only
        rw [runFrom_runUnder]
        cases d.verdict? (q.observed.connection.moment s.connection) with
        | some reason => exact hs
        | none => rfl

/-- A statement that fails after it was told to give up fails with the first reason. -/
theorem runFrom_run_of_told {text : String} {parameters : List Parameter}
    {before after : List Moment} {m : Moment} {e : ConnectionError} {t : σ} {verdict? : Moment → Option StorageError}
    {reason : StorageError} {s : SqliteState σ}
    (hreply : q.connection.execute text parameters s.connection =
      (⟨before ++ m :: after, .error e⟩, t))
    (hbefore : ∀ b ∈ before, verdict? b = none) (hm : verdict? m = some reason) :
    (q.run text parameters verdict?).runFrom s = (.error (.storage reason), ⟨t, s.depth⟩) := by
  have hnone : before.findSome? verdict? = none := List.findSome?_eq_none_iff.mpr hbefore
  have hfirst : (before ++ m :: after).findSome? verdict? = some reason := by
    rw [List.findSome?_append, hnone, List.findSome?_cons, hm]
    rfl
  simp only [run, runFrom_bind, runFrom_ofFunction, onConnection, hreply, hfirst, runFrom_throw]

/-- How a call under a deadline ends whose parameters can be stored, from a state on: with an
outcome and in another state. A call whose token is used or whose time is up sends nothing. Any
other call sends its statement, and when that fails after it was told to give up, the call fails for
the reason that there was when it was told so first. -/
structure Gated (q : Sqlite σ) (st : Statement) (parameters : List Parameter) (d : Deadline)
    (s : SqliteState σ) (ended : Except StoreFault (List (Row Value)) × SqliteState σ) : Prop where
  cancelled : d.isCancelled (q.connection.moment s.connection) = true →
    ended = (.error (.storage .cancelled), s)
  expired : d.isCancelled (q.connection.moment s.connection) = false →
    d.isExpired (q.connection.moment s.connection) = true →
    ended = (.error (.storage .timeout), s)
  told : d.verdict? (q.connection.moment s.connection) = none →
    ∀ before m after e t,
      q.connection.execute st.text parameters (q.asking d s).connection =
        (⟨before ++ m :: after, .error e⟩, t) →
      (∀ b ∈ before, d.verdict? b = none) →
      (d.isCancelled m = true → ended.1 = .error (.storage .cancelled)) ∧
        (d.isCancelled m = false → d.isExpired m = true → ended.1 = .error (.storage .timeout))

theorem gated_execute {st : Statement} {parameters : List Parameter}
    (hstored : st.parameters.mapM stored = .ok parameters) (d : Deadline) (s : SqliteState σ) :
    q.Gated st parameters d s ((q.execute st (some d)).runFrom s) := by
  have heq : q.execute st (some d) = q.runUnder st.text parameters d := by
    simp only [execute, hstored]
  rw [heq, runFrom_runUnder]
  constructor
  · intro hcancelled
    rw [Deadline.verdict?_of_isCancelled hcancelled]
  · intro hcancelled hexpired
    rw [Deadline.verdict?_of_isExpired hcancelled hexpired]
  · intro hnow before m after e t hreply hbefore
    rw [hnow]
    constructor
    · intro hcancelled
      exact congrArg Prod.fst (q.runFrom_run_of_told hreply hbefore
        (Deadline.verdict?_of_isCancelled hcancelled))
    · intro hcancelled hexpired
      exact congrArg Prod.fst (q.runFrom_run_of_told hreply hbefore
        (Deadline.verdict?_of_isExpired hcancelled hexpired))

/-- A call with a parameter that cannot be stored sends nothing, whatever its deadline is. -/
theorem runFrom_execute_of_notStorable {st : Statement} {cause : Json.WriteError}
    (hstored : st.parameters.mapM stored = .error cause) (d : Option Deadline) (s : SqliteState σ) :
    (q.execute st d).runFrom s = (.error (.notStorable cause), s) := by
  simp only [execute, hstored, runFrom_throw]

/-! ## Runs -/

/-- A part of a run: a statement is executed under a deadline or without one, or something else
happens to the connection. -/
inductive Event (σ : Type) where
  | call (st : Statement) (d : Option Deadline)
  | meanwhile (f : σ → σ)

/-- The state after a part of a run. -/
def afterEvent (q : Sqlite σ) (s : SqliteState (Observed σ)) :
    Event σ → SqliteState (Observed σ)
  | .call st d => ((q.observed.execute st d).runFrom s).2
  | .meanwhile f =>
    { s with connection := { s.connection with connection := f s.connection.connection } }

/-- The state of a store that was just opened, after the parts of a run in order. -/
def afterRun (q : Sqlite σ) (c : σ) (es : List (Event σ)) : SqliteState (Observed σ) :=
  es.foldl q.afterEvent ⟨⟨c, [], none⟩, 0⟩

theorem question_afterEvent {s : SqliteState (Observed σ)} (hs : question s = none) (e : Event σ) :
    question (q.afterEvent s e) = none := by
  cases e with
  | call st d => exact q.question_execute st d hs
  | meanwhile f => exact hs

/-- Between the calls of a run the connection asks nothing. -/
theorem question_afterRun (c : σ) (es : List (Event σ)) : question (q.afterRun c es) = none := by
  have hrun : ∀ s : SqliteState (Observed σ), question s = none →
      question (es.foldl q.afterEvent s) = none := by
    induction es with
    | nil => exact fun s hs => hs
    | cons e es ih =>
        intro s hs
        exact ih _ (q.question_afterEvent hs e)
  exact hrun _ rfl

/-- A call in a run, whatever came before it: a parameter that cannot be stored is refused before
the deadline is looked at, and with parameters that can be stored the call is given up as its
deadline says. Nothing is sent where a call is given up before it begins. After the call, however it
ends, the connection asks nothing any more. -/
theorem gated_afterRun (c : σ) (es : List (Event σ)) (st : Statement) (d : Option Deadline) :
    let s := q.afterRun c es
    let ended := (q.observed.execute st d).runFrom s
    question s = none ∧ question ended.2 = none ∧
      (∀ cause, st.parameters.mapM stored = .error cause →
        ended = (.error (.notStorable cause), s)) ∧
      ∀ parameters limit, st.parameters.mapM stored = .ok parameters → d = some limit →
        q.observed.Gated st parameters limit s ended := by
  intro s ended
  have hs : question s = none := q.question_afterRun c es
  refine ⟨hs, q.question_execute st d hs, ?_, ?_⟩
  · intro cause hstored
    exact q.observed.runFrom_execute_of_notStorable hstored d s
  · rintro parameters limit hstored rfl
    exact q.observed.gated_execute hstored limit s

/-- A store on a connection that follows a script. -/
def scripted : Sqlite Script := ⟨Script.connection, defaultInterval⟩

/-- A statement without values. -/
def probe : Statement := ⟨"SELECT 1", [], [], none⟩

/-- No limit, but a token. -/
def watching : Deadline := ⟨none, true⟩

/-- A statement asks twice, three seconds apart, and the token is used before the second
question. -/
def slow : Script :=
  (Script.start ⟨.whole 0, false⟩ [] []).push ⟨2, .whole 3, some 1, none, .empty⟩

/-- A statement with a map that cannot be stored for the bytes in it. -/
def unstorable : Statement :=
  ⟨"INSERT INTO t VALUES (?)", [.value (.map [("key", .binary [0])])], [], none⟩

theorem stored_unstorable : unstorable.parameters.mapM stored = .error .noForm := by
  have hdump : (Value.map [("key", .binary [0])]).dump = .error .noForm := by
    rw [Value.dump, Json.write, Json.writeEntries, Json.writeEntries, Json.sortEntries,
      List.mergeSort_singleton]
    rfl
  rw [unstorable, List.mapM_cons, stored, hdump]
  rfl

/-- A statement that is told to give up at its second question fails because the token was used.
Five seconds are over by then, so that a second call with this limit is not sent. A call with a used
token is not cancelled when one of its parameters cannot be stored: that is what it fails with. -/
theorem gated_afterRun_slow :
    ((scripted.observed.execute probe (some watching)).runFrom (scripted.afterRun slow [])).1 =
        .error (.storage .cancelled) ∧
      (let limited : Deadline := ⟨some (.whole 5), false⟩
      let s := scripted.afterRun slow [.call probe (some watching)]
      (scripted.observed.execute probe (some limited)).runFrom s = (.error (.storage .timeout), s) ∧
        question s = none ∧ s.connection.sent = ["SELECT 1"]) ∧
      let s := scripted.afterRun (Script.start ⟨.whole 0, true⟩ [] []) []
      watching.isCancelled (scripted.observed.connection.moment s.connection) = true ∧
        (scripted.observed.execute unstorable (some watching)).runFrom s =
          (.error (.notStorable .noForm), s) := by
  refine ⟨?_, ?_, ?_⟩
  · obtain ⟨-, -, -, hgated⟩ := scripted.gated_afterRun slow [] probe (some watching)
    have hbefore : ∀ b ∈ [(⟨.whole 3, false⟩ : Moment)], watching.verdict? b = none := by decide
    have hreply : ∃ t, scripted.observed.connection.execute probe.text []
        (scripted.observed.asking watching (scripted.afterRun slow [])).connection =
          (⟨[⟨.whole 3, false⟩] ++ ⟨.whole 6, true⟩ :: [], .error Script.interrupted⟩, t) :=
      ⟨_, rfl⟩
    obtain ⟨t, ht⟩ := hreply
    exact ((hgated [] watching rfl rfl).told rfl _ _ _ _ t ht hbefore).1 rfl
  · intro limited s
    obtain ⟨hasked, -, -, hgated⟩ :=
      scripted.gated_afterRun slow [.call probe (some watching)] probe (some limited)
    have hexpired :
        limited.isExpired (scripted.observed.connection.moment s.connection) = true := by
      decide +kernel
    exact ⟨(hgated [] limited rfl rfl).expired rfl hexpired, hasked, rfl⟩
  · intro s
    obtain ⟨-, -, hrefused, -⟩ :=
      scripted.gated_afterRun (Script.start ⟨.whole 0, true⟩ [] []) [] unstorable (some watching)
    exact ⟨rfl, hrefused .noForm stored_unstorable⟩

end Sqlite

end RecordMapper
