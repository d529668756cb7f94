import RecordMapper.Proofs.Store.Marks
import RecordMapper.Proofs.Text.Listing

/-! # A connection with marks

A connection that notes the statements it is told, and goes back to what it had noted at a mark. -/

namespace RecordMapper

/-- A statement of control: it marks the contents, under a name or without one, forgets marks, or
takes the contents back to one; `look` changes nothing. -/
inductive Control where
  | begin
  | commit
  | rollback
  | savepoint (name : String)
  | rollbackTo (name : String)
  | release (name : String)
  | look

namespace Control

/-- What stands after the words that a text begins with. -/
def nameAfter? (words text : String) : Option String :=
  (Text.afterStart? words.toList text.toList).map String.ofList

/-- The statement of control that a text is. -/
def ofText? (text : String) : Option Control :=
  if text = "BEGIN" then some .begin
  else if text = "COMMIT" then some .commit
  else if text = "ROLLBACK" then some .rollback
  else
    ((nameAfter? "SAVEPOINT " text).map .savepoint).or
      (((nameAfter? "ROLLBACK TO SAVEPOINT " text).map .rollbackTo).or
        (((nameAfter? "RELEASE SAVEPOINT " text).map .release).or
          ((nameAfter? "PRAGMA " text).map fun _ => .look)))

theorem nameAfter?_append (words name : String) : nameAfter? words (words ++ name) = some name := by
  rw [nameAfter?, String.toList_append, Text.afterStart?_append, Option.map_some,
    String.ofList_toList]

theorem nameAfter?_eq_none {words start : String} (name : String)
    (h : ∀ cs, Text.afterStart? words.toList (start.toList ++ cs) = none) :
    nameAfter? words (start ++ name) = none := by
  rw [nameAfter?, String.toList_append, h]
  rfl

theorem ofText?_append {words : String} (name : String)
    (h : ∀ text ∈ ["BEGIN", "COMMIT", "ROLLBACK"], ¬ words.toList <+: text.toList) :
    ofText? (words ++ name) =
      ((nameAfter? "SAVEPOINT " (words ++ name)).map .savepoint).or
        (((nameAfter? "ROLLBACK TO SAVEPOINT " (words ++ name)).map .rollbackTo).or
          (((nameAfter? "RELEASE SAVEPOINT " (words ++ name)).map .release).or
            ((nameAfter? "PRAGMA " (words ++ name)).map fun _ => .look))) := by
  have hne : ∀ text ∈ ["BEGIN", "COMMIT", "ROLLBACK"], words ++ name ≠ text := by
    rintro text htext rfl
    exact h _ htext (by simp)
  simp only [List.forall_mem_cons] at hne
  rw [ofText?, if_neg hne.1, if_neg hne.2.1, if_neg hne.2.2.1]

theorem ofText?_savepoint (name : String) :
    ofText? ("SAVEPOINT " ++ name) = some (.savepoint name) := by
  rw [ofText?_append name (by decide), nameAfter?_append]
  rfl

theorem ofText?_rollbackTo (name : String) :
    ofText? ("ROLLBACK TO SAVEPOINT " ++ name) = some (.rollbackTo name) := by
  rw [ofText?_append name (by decide), nameAfter?_append, nameAfter?_eq_none name fun _ => rfl]
  rfl

theorem ofText?_release (name : String) :
    ofText? ("RELEASE SAVEPOINT " ++ name) = some (.release name) := by
  rw [ofText?_append name (by decide), nameAfter?_append, nameAfter?_eq_none name fun _ => rfl,
    nameAfter?_eq_none name fun _ => rfl]
  rfl

theorem ofText?_look (rest : String) : ofText? ("PRAGMA " ++ rest) = some .look := by
  rw [ofText?_append rest (by decide), nameAfter?_append, nameAfter?_eq_none rest fun _ => rfl,
    nameAfter?_eq_none rest fun _ => rfl, nameAfter?_eq_none rest fun _ => rfl]
  rfl

end Control

/-- The state of a connection that notes the texts of statements, with its marks, the innermost one
first. -/
structure Ledger where
  lines : List String
  marks : List (Option String × List String)

namespace Ledger

/-- The error for a statement of control that makes no sense. -/
def misplaced : ConnectionError := ⟨.operational, "no such savepoint"⟩

/-- The error for a line that cannot be kept. -/
def refused : ConnectionError := ⟨.integrity, "FOREIGN KEY constraint failed"⟩

/-- The marks from the innermost one of a name on. -/
def upTo (s : Ledger) (name : String) : List (Option String × List String) :=
  s.marks.dropWhile fun m => m.1 ≠ some name

/-- Executes a statement of control. A line "orphan" cannot be kept. -/
def command (s : Ledger) : Control → Except ConnectionError Ledger
  | .begin => if s.marks = [] then .ok { s with marks := [(none, s.lines)] } else .error misplaced
  | .commit =>
    if s.marks = [] then .error misplaced
    else if "orphan" ∈ s.lines then .error refused
    else .ok { s with marks := [] }
  | .rollback =>
    match s.marks.getLast? with
    | some m => .ok ⟨m.2, []⟩
    | none => .error misplaced
  | .savepoint name => .ok { s with marks := (some name, s.lines) :: s.marks }
  | .rollbackTo name =>
    match s.upTo name with
    | m :: below => .ok ⟨m.2, m :: below⟩
    | [] => .error misplaced
  | .release name =>
    match s.upTo name with
    | _ :: below => .ok { s with marks := below }
    | [] => .error misplaced
  | .look => .ok s

/-- Executes a statement: what is none of control is noted. -/
def execute (text : String) (s : Ledger) : Reply × Ledger :=
  match Control.ofText? text with
  | none => (⟨[], .ok .empty⟩, { s with lines := s.lines ++ [text] })
  | some control =>
    match s.command control with
    | .ok after => (⟨[], .ok .empty⟩, after)
    | .error e => (⟨[], .error e⟩, s)

/-- The connection. -/
def connection : Connection Ledger where
  moment _ := ⟨.whole 0, false⟩
  execute text _ s := s.execute text
  script text s := s.execute text
  inTransaction s := !s.marks.isEmpty
  watch _ _ s := s
  close s := s

theorem does_of_command {text : String} {control : Control} {s t : Ledger} {P : Ledger → Prop}
    (htext : Control.ofText? text = some control) (hs : s.command control = .ok t) (ht : P t) :
    connection.Does text s P := by
  simp only [Connection.Does, connection, execute, htext, hs]
  exact ⟨⟨_, rfl⟩, ht⟩

theorem dropWhile_marks {name : String} {above below : List (Option String × List String)}
    {saved : List String} (h : ∀ m ∈ above, m.1 ≠ some name) :
    (above ++ (some name, saved) :: below).dropWhile (fun m => m.1 ≠ some name) =
      (some name, saved) :: below := by
  rw [List.dropWhile_append_of_pos (by simpa using h)]
  simp

theorem refuses_of_command {text : String} {control : Control} {s : Ledger} {e : ConnectionError}
    {P : Ledger → Prop} (htext : Control.ofText? text = some control)
    (hs : s.command control = .error e) (hP : P s) : connection.Refuses text s P := by
  simp only [Connection.Refuses, connection, execute, htext, hs]
  exact ⟨⟨e, rfl⟩, hP⟩

/-- The connection marks its lines. -/
theorem marks_connection : connection.Marks lines marks where
  begins s h :=
    does_of_command (t := ⟨s.lines, [(none, s.lines)]⟩) rfl (by simp [command, h]) ⟨rfl, rfl⟩
  savepoints n s h := does_of_command (Control.ofText?_savepoint _) rfl ⟨rfl, rfl⟩
  returns n s above saved below h hname := by
    refine does_of_command (t := ⟨saved, (some (Sqlite.savepoint n), saved) :: below⟩)
      (Control.ofText?_rollbackTo (Sqlite.savepoint n)) ?_ ⟨rfl, rfl⟩
    rw [command, upTo, h, dropWhile_marks hname]
  releases n s above saved below h hname hbelow := by
    refine does_of_command (t := ⟨s.lines, below⟩)
      (Control.ofText?_release (Sqlite.savepoint n)) ?_ ⟨rfl, rfl⟩
    rw [command, upTo, h, dropWhile_marks hname]
  rollsBack s above saved h :=
    does_of_command (t := ⟨saved, []⟩) rfl (by simp [command, h]) ⟨rfl, rfl⟩
  commits s h := by
    by_cases horphan : "orphan" ∈ s.lines
    · have hrefused : s.command .commit = .error refused := by
        rw [command, if_neg h, if_pos horphan]
      exact .inr (refuses_of_command rfl hrefused ⟨rfl, rfl⟩)
    · exact .inl (does_of_command (t := { s with marks := [] }) rfl
        (by rw [command, if_neg h, if_neg horphan]) ⟨rfl, rfl⟩)
  isOpen s := rfl
  looks text h s := by
    have hlook : Control.ofText? text = some .look := by
      cases h with
      | list table =>
          have hlist := Control.ofText?_look ("index_list(\"" ++ table ++ "\")")
          rwa [← String.append_assoc, ← String.append_assoc] at hlist
      | info name =>
          have hinfo := Control.ofText?_look ("index_info(\"" ++ name ++ "\")")
          rwa [← String.append_assoc, ← String.append_assoc] at hinfo
    simp [connection, execute, hlook, command]
  watches _ _ _ := ⟨rfl, rfl⟩

/-- A statement that is none of control is ordinary. -/
theorem ordinary_of_ofText? {st : Statement} (h : Control.ofText? st.text = none) :
    connection.Ordinary marks st := by
  intro parameters s
  simp [connection, execute, h]

end Ledger

end RecordMapper
