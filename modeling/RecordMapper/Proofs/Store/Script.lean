import RecordMapper.Proofs.Store.Violation

/-! # The indexes of a connection that follows a script

A script without obstacles reports its indexes whenever it is asked for them. -/

namespace RecordMapper.Script

open Sqlite (IsLookup)

variable {s t : Script} {text : String} {parameters : List Parameter}

/-! ## Statements that ask for indexes -/

theorem argument?_append (start name : String) :
    argument? start (start ++ "(\"" ++ name ++ "\")") = some name := by
  have hcut : (start ++ "(\"" ++ name ++ "\")").toList =
      (start ++ "(\"").toList ++ (name.toList ++ "\")".toList) := by
    simp only [String.toList_append, List.append_assoc]
  have hrest : (name.toList ++ "\")".toList).take ((name.toList ++ "\")".toList).length - 2) =
      name.toList := by
    simp
  rw [argument?, hcut, Text.afterStart?_append, Option.map_some, hrest, String.ofList_toList]

theorem isControl_of_isLookup (h : IsLookup text) :
    controlWords.contains (firstWord text) = true := by
  obtain ⟨rest, hrest⟩ : ∃ rest, text.toList = "PRAGMA".toList ++ ' ' :: rest := by
    cases h with
    | list table =>
        refine ⟨"index_list(\"".toList ++ (table.toList ++ "\")".toList), ?_⟩
        simp [toString]
    | info name =>
        refine ⟨"index_info(\"".toList ++ (name.toList ++ "\")".toList), ?_⟩
        simp [toString]
  have hword : firstWord text = "PRAGMA" := by
    rw [firstWord, hrest]
    rfl
  rw [hword]
  decide

theorem describe_list (s : Script) (table : String) :
    s.describe s!"PRAGMA index_list(\"{table}\")" =
      ⟨none, listRows ((s.indexes.find? table).getD [])⟩ := by
  have hargument : argument? "PRAGMA index_list" s!"PRAGMA index_list(\"{table}\")" = some table :=
    argument?_append "PRAGMA index_list" table
  rw [describe, hargument]

theorem describe_info (s : Script) (name : String) :
    s.describe s!"PRAGMA index_info(\"{name}\")" =
      ⟨none, infoRows ((((s.indexes.flatMap Prod.snd).find? (·.name == name)).map
        Index.columns).getD [])⟩ := by
  have hargument : argument? "PRAGMA index_info" s!"PRAGMA index_info(\"{name}\")" = some name :=
    argument?_append "PRAGMA index_info" name
  have htext : s!"PRAGMA index_info(\"{name}\")".toList =
      "PRAGMA index_info(\"".toList ++ (name.toList ++ "\")".toList) := by
    simp [toString]
  have hother : argument? "PRAGMA index_list" s!"PRAGMA index_info(\"{name}\")" = none := by
    rw [argument?, htext]
    rfl
  rw [describe, hargument, hother]

/-! ## The indexes -/

theorem forall₂_map_zipIdx {α : Type} {R : List Value → α → Prop} {f : α × Nat → List Value}
    (h : ∀ x n, R (f (x, n)) x) (xs : List α) (n : Nat) :
    List.Forall₂ R ((xs.zipIdx n).map f) xs := by
  induction xs generalizing n with
  | nil => exact .nil
  | cons x xs ih => exact .cons (h x n) (ih (n + 1))

theorem forall₂_listRows (is : List Index) : List.Forall₂ Connection.Lists (listRows is) is :=
  forall₂_map_zipIdx (fun _ _ => ⟨_, _, rfl⟩) is 0

theorem forall₂_infoRows (columns : List Value) :
    List.Forall₂ Connection.Describes (infoRows columns) columns :=
  forall₂_map_zipIdx (fun _ _ => ⟨_, _, _, rfl⟩) columns 0

/-- Without obstacles, a question about indexes is answered with what is known. -/
theorem execute_of_isLookup (hs : s.obstacles = []) (htext : IsLookup text) :
    connection.execute text parameters s =
      (⟨[], .ok (s.describe text)⟩,
        { s.note (.statement text parameters) with isOpen := opens text s.isOpen }) := by
  have hcontrol : controlWords.contains (firstWord text) = true := isControl_of_isLookup htext
  have hmeet : meet text (s.note (.statement text parameters)).obstacles = none := by
    rw [note, hs, meet]
  change (s.note (.statement text parameters)).answer text = _
  rw [answer, hmeet]
  exact if_pos hcontrol

/-- Questions about indexes leave the indexes as they are. -/
theorem of_looks (h : connection.Looks s t) (hs : s.obstacles = []) :
    t.obstacles = [] ∧ t.indexes = s.indexes := by
  induction h with
  | refl => exact ⟨hs, rfl⟩
  | step _ htext ih =>
      rw [execute_of_isLookup ih.1 htext]
      exact ih

/-- The indexes of a table are reported if each is the first one of its name. -/
theorem reports {table : String} {indexes : List Index} (hs : s.obstacles = [])
    (htable : s.indexes.find? table = some indexes)
    (hnames : ∀ i ∈ indexes, (s.indexes.flatMap Prod.snd).find? (·.name == i.name) = some i) :
    connection.Reports table indexes s where
  list t ht := by
    obtain ⟨hobstacles, hindexes⟩ := of_looks ht hs
    refine ⟨_, congrArg (·.1.result) (execute_of_isLookup hobstacles (.list table)), ?_⟩
    rw [describe_list, hindexes, htable]
    exact forall₂_listRows indexes
  info t ht i hi := by
    obtain ⟨hobstacles, hindexes⟩ := of_looks ht hs
    refine ⟨_, congrArg (·.1.result) (execute_of_isLookup hobstacles (.info i.name)), ?_⟩
    rw [describe_info, hindexes, hnames i hi]
    exact forall₂_infoRows i.columns

end RecordMapper.Script
