import Mathlib.Data.List.Basic
import RecordMapper.Proofs.Sql.Placement

/-! # Statements that write one record

The text of a statement that stores, changes or removes one record, in full. All that it holds are
words, quoted names and placeholders, which are numbered from left to right. -/

namespace RecordMapper

namespace Dialect

/-- A name in quotes. -/
def quoted (name : String) : String := String.ofList (quote name.toList)

/-- Names in quotes, with commas between them. -/
def quotedNames (names : List String) : String := ", ".intercalate (names.map quoted)

/-- The texts of the first placeholders. -/
def marks (d : Dialect) (count : Nat) : List String := (d.numbered 0 count).map String.ofList

theorem toList_quotedNames (names : List String) :
    (quotedNames names).toList = ", ".toList.intercalate (names.map fun n => quote n.toList) := by
  simp [quotedNames, quoted, Function.comp_def]

theorem map_toList_marks (d : Dialect) (count : Nat) :
    (d.marks count).map String.toList = d.numbered 0 count := by
  simp [marks, Function.comp_def]

end Dialect

namespace Piece

variable {d : Dialect} {ps : List Piece}

/-! ## Lists of pieces -/

/-- The texts of lists of pieces, `bound` values being bound before the first of them. -/
def renderEach (d : Dialect) (bound : Nat) : List (List Piece) → List (List Char)
  | [] => []
  | ps :: pss => render d bound ps :: renderEach d (bound + (parameters ps).length) pss

theorem render_separated (bound : Nat) (separator : String) (pss : List (List Piece)) :
    render d bound (separated separator pss) =
      separator.toList.intercalate (renderEach d bound pss) := by
  fun_induction separated separator pss generalizing bound with
  | case1 => rfl
  | case2 ps => simp [renderEach]
  | case3 ps pss hne ih =>
      cases pss with
      | nil => exact absurd rfl hne
      | cons qs pss => simp [render_append, render, ih, renderEach]

theorem renderEach_of_parameters_eq_nil (bound : Nat) {pss : List (List Piece)}
    (h : ∀ ps ∈ pss, parameters ps = []) : renderEach d bound pss = pss.map (render d bound) := by
  induction pss with
  | nil => rfl
  | cons ps pss ih =>
      rw [List.forall_mem_cons] at h
      rw [renderEach, h.1, List.length_nil, Nat.add_zero, ih h.2, List.map_cons]

theorem render_names (bound : Nat) (ns : List String) :
    render d bound (names ns) = (Dialect.quotedNames ns).toList := by
  have hnone : ∀ ps ∈ ns.map fun n => [Piece.name n], parameters ps = [] :=
    List.forall_mem_map.mpr fun _ _ => rfl
  rw [names, render_separated, Dialect.toList_quotedNames, renderEach_of_parameters_eq_nil _ hnone]
  simp [Function.comp_def, render]

theorem renderEach_slots (bound : Nat) (values : Row Value) :
    renderEach d bound (values.map fun x => [.slot (.value x.2)]) =
      d.numbered bound values.length := by
  induction values generalizing bound with
  | nil => rfl
  | cons x values ih =>
      rw [List.map_cons, renderEach, List.length_cons, Dialect.numbered_succ]
      simpa [render, parameters] using ih (bound + 1)

theorem parameters_names (ns : List String) : parameters (names ns) = [] := by
  simp [names, parameters, List.flatMap_map]

/-- A name and its placeholder, for each of some columns. -/
theorem renderEach_assignments (bound : Nat) (values : Row Value) :
    renderEach d bound (values.map fun x => [.name x.1, .word " = ", .slot (.value x.2)]) =
      (values.keys.zip (d.numbered bound values.length)).map fun x =>
        Dialect.quote x.1.toList ++ " = ".toList ++ x.2 := by
  induction values generalizing bound with
  | nil => rfl
  | cons x values ih =>
      rw [List.map_cons, renderEach, List.length_cons, Dialect.numbered_succ]
      simpa [render, parameters, Row.keys] using ih (bound + 1)

/-! ## Plain pieces -/

/-- Whether a piece is a plain word, a name or a placeholder. -/
def isPlain : Piece → Bool
  | .word s => isPlainWord s
  | .name _ => true
  | .slot _ => true
  | _ => false

theorem legible_of_isPlain {p : Piece} (h : p.isPlain = true) : p.Legible d := by
  cases p with
  | word s => exact legible_word h
  | raw cs => cases h
  | _ => trivial

theorem not_loses_of_isPlain (h : ∀ p ∈ ps, p.isPlain = true) : ¬ Loses ps := by
  rintro ⟨p, hp⟩
  cases h _ hp

theorem digit_notMem_layout (h : ∀ p ∈ ps, p.isPlain = true) : .digit ∉ layout ps := by
  induction ps with
  | nil => simp
  | cons p ps ih =>
      obtain ⟨hp, hps⟩ := List.forall_mem_cons.mp h
      cases p <;> simp_all [cells, isPlain]

/-- The placeholders of plain pieces are numbered without a gap. -/
theorem placeholders_of_isPlain (h : ∀ p ∈ ps, p.isPlain = true) :
    d.placeholders (render d 0 ps) = d.numbered 0 (parameters ps).length := by
  rw [placeholders_eq_numbered_iff fun p hp => legible_of_isPlain (h p hp)]
  refine ⟨not_loses_of_isPlain h, fun _ hdigit => digit_notMem_layout h ?_⟩
  exact hdigit.subset (by simp)

theorem isPlain_separated {separator : String} (hs : isPlainWord separator = true)
    {pss : List (List Piece)} (h : ∀ ps ∈ pss, ∀ p ∈ ps, p.isPlain = true) :
    ∀ p ∈ separated separator pss, p.isPlain = true := by
  fun_induction separated separator pss with
  | case1 => simp
  | case2 ps => simpa using h
  | case3 ps pss hne ih =>
      rw [List.forall_mem_cons] at h
      simp only [List.forall_mem_append, List.forall_mem_cons]
      exact ⟨h.1, hs, ih h.2⟩

theorem isPlain_names (ns : List String) : ∀ p ∈ names ns, p.isPlain = true :=
  isPlain_separated (by decide) (by simp [isPlain])

end Piece

namespace Descriptor

open Piece

variable (s : Descriptor) (d : Dialect)

/-! ## Texts -/

/-- The end of a statement: it gives back the stored fields. -/
def returningText : String := " RETURNING " ++ Dialect.quotedNames s.storedNames

/-- The text that stores a record with values in some columns, or with none. -/
def insertionText (columns : List String) : String :=
  "INSERT INTO " ++ Dialect.quoted s.relation ++
    (if columns = [] then " DEFAULT VALUES"
    else " (" ++ Dialect.quotedNames columns ++ ") VALUES (" ++
      ", ".intercalate (d.marks columns.length) ++ ")") ++ s.returningText

/-- The condition on the primary key, so many values being bound before. -/
def whereKeyText (bound : Nat) : String :=
  " WHERE " ++ Dialect.quoted s.primaryKey ++ " = " ++
    String.ofList (d.placeholder (bound + 1 : Nat))

/-- The text that gives some columns of a record new values. -/
def changeText (columns : List String) : String :=
  "UPDATE " ++ Dialect.quoted s.relation ++ " SET " ++
    ", ".intercalate ((columns.zip (d.marks columns.length)).map fun x =>
      Dialect.quoted x.1 ++ " = " ++ x.2) ++
    s.whereKeyText d columns.length ++ s.returningText

/-- The text that removes a record. -/
def removalText : String :=
  "DELETE FROM " ++ Dialect.quoted s.relation ++ s.whereKeyText d 0 ++ s.returningText

/-! ## Statements -/

/-- A statement for records of the schema. -/
def recordStatement (text : String) (values : List Value) : Statement :=
  ⟨text, values.map .value, s.storedNames, some s.name⟩

theorem parameters_returning : parameters s.returning = [] := by
  simp [returning, parameters, parameters_names]

theorem render_returning (bound : Nat) : render d bound s.returning = s.returningText.toList := by
  rw [returning, render, render_names, returningText, String.toList_append]

theorem isPlain_returning : ∀ p ∈ s.returning, p.isPlain = true :=
  List.forall_mem_cons.mpr ⟨by decide, isPlain_names s.storedNames⟩

theorem parameters_slots (values : Row Value) :
    (values.map fun x => [Piece.slot (.value x.2)]).flatMap parameters =
      (values.map Prod.snd).map .value := by
  induction values with
  | nil => rfl
  | cons x values ih => simpa [parameters] using ih

theorem parameters_assignments (values : Row Value) :
    (values.map fun x => [Piece.name x.1, .word " = ", .slot (.value x.2)]).flatMap parameters =
      (values.map Prod.snd).map .value := by
  induction values with
  | nil => rfl
  | cons x values ih => simpa [parameters] using ih

/-- The statement of pieces that have a text and bind some values. -/
theorem statement_eq {ps : List Piece} {text : String} {values : List Value}
    (ht : render d 0 (ps ++ s.returning) = text.toList)
    (hv : parameters ps = values.map .value) :
    s.statement d ps = s.recordStatement text values := by
  simp [statement, Statement.ofPieces, recordStatement, ht, hv, parameters_returning]

theorem parameters_recordPieces (values : Row Value) :
    parameters (recordPieces values) = (values.map Prod.snd).map .value := by
  unfold recordPieces
  split
  · rename_i hempty
    rw [List.isEmpty_iff.mp hempty]
    rfl
  · simp [parameters, parameters_names, parameters_slots]

theorem render_recordPieces (values : Row Value) :
    render d 0 (recordPieces values) =
      (if values.keys = [] then " DEFAULT VALUES"
      else " (" ++ Dialect.quotedNames values.keys ++ ") VALUES (" ++
        ", ".intercalate (d.marks values.keys.length) ++ ")" : String).toList := by
  have hlength : values.keys.length = values.length := by simp [Row.keys]
  unfold recordPieces
  by_cases hempty : values = []
  · rw [hempty]
    simp [render, Row.keys]
  · rw [if_neg (by simpa using hempty), if_neg (by simpa [Row.keys] using hempty)]
    simp only [render, render_append, parameters_names, render_names, render_separated,
      renderEach_slots, List.length_nil, Nat.zero_add, List.append_assoc, List.cons_append,
      List.append_nil, String.toList_append, String.toList_intercalate, Dialect.map_toList_marks,
      hlength]

/-- The statement that stores a record with some values. -/
theorem statement_insertion (values : Row Value) :
    s.statement d (.word "INSERT INTO " :: .name s.relation :: recordPieces values) =
      s.recordStatement (s.insertionText d values.keys) (values.map Prod.snd) := by
  refine s.statement_eq d ?_ (parameters_recordPieces values)
  simp only [List.cons_append, render, render_append, render_recordPieces, render_returning,
    insertionText, Dialect.quoted, String.toList_append, String.toList_ofList, List.append_assoc]

theorem render_whereKey (bound : Nat) (key : Value) :
    render d bound (s.whereKey key) = (s.whereKeyText d bound).toList := by
  simp only [whereKey, render, whereKeyText, Dialect.quoted, String.toList_append,
    String.toList_ofList, List.append_nil, List.append_assoc]

/-- The statement that gives the record of a key some new values. -/
theorem statement_change (key : Value) (values : Row Value) :
    s.statement d (.word "UPDATE " :: .name s.relation :: .word " SET " ::
        separated ", " (values.map fun x => [.name x.1, .word " = ", .slot (.value x.2)]) ++
        s.whereKey key) =
      s.recordStatement (s.changeText d values.keys) (values.map Prod.snd ++ [key]) := by
  have hassigned : parameters (separated ", "
      (values.map fun x => [Piece.name x.1, .word " = ", .slot (.value x.2)])) =
        (values.map Prod.snd).map .value := by
    rw [parameters_separated, parameters_assignments]
  have hlength : values.keys.length = values.length := by simp [Row.keys]
  have htexts : ((values.keys.zip (d.marks values.length)).map fun x =>
      Dialect.quoted x.1 ++ " = " ++ x.2).map String.toList =
        renderEach d 0 (values.map fun x => [.name x.1, .word " = ", .slot (.value x.2)]) := by
    rw [renderEach_assignments, Dialect.marks, List.zip_map_right]
    simp [Dialect.quoted]
  refine s.statement_eq d ?_ (by simp [parameters, hassigned, whereKey])
  simp only [List.cons_append, render, render_append, render_separated, render_whereKey,
    render_returning, hassigned, hlength, List.length_map, Nat.zero_add, changeText,
    Dialect.quoted, String.toList_append, String.toList_ofList, String.toList_intercalate,
    List.append_assoc, ← htexts]

/-- The statement that removes the record of a key. -/
theorem removal_eq (key : Value) :
    s.removal d key = s.recordStatement (s.removalText d) [key] := by
  refine s.statement_eq d ?_ (by simp [parameters, whereKey])
  simp only [List.cons_append, render, render_append, render_whereKey, render_returning,
    removalText, Dialect.quoted, String.toList_append, String.toList_ofList, List.append_assoc]

/-! ## Placeholders -/

variable {s d}

/-- The placeholders of a statement of plain pieces are numbered without a gap. -/
theorem placeholders_statement {ps : List Piece} (h : ∀ p ∈ ps, p.isPlain = true) :
    d.placeholders (s.statement d ps).text.toList =
      d.numbered 0 (s.statement d ps).parameters.length := by
  have hall : ∀ p ∈ ps ++ s.returning, p.isPlain = true :=
    List.forall_mem_append.mpr ⟨h, s.isPlain_returning⟩
  simpa [statement, Statement.ofPieces] using placeholders_of_isPlain (d := d) hall

theorem isPlain_whereKey (key : Value) : ∀ p ∈ s.whereKey key, p.isPlain = true := by
  simp only [whereKey, List.forall_mem_cons, isPlain, List.not_mem_nil, false_implies,
    implies_true, and_true, true_and]
  decide

theorem isPlain_recordPieces (values : Row Value) :
    ∀ p ∈ recordPieces values, p.isPlain = true := by
  unfold recordPieces
  split
  · exact List.forall_mem_singleton.mpr (by decide)
  · have hslots : ∀ p ∈ separated ", " (values.map fun x => [.slot (.value x.2)]),
        p.isPlain = true :=
      isPlain_separated (by decide)
        (List.forall_mem_map.mpr fun _ _ => List.forall_mem_singleton.mpr rfl)
    simp only [List.cons_append, List.forall_mem_cons, List.forall_mem_append, List.append_assoc]
    exact ⟨by decide, isPlain_names _, by decide, hslots, by decide, nofun⟩

theorem placeholders_insertionText (values : Row Value) :
    d.placeholders (s.insertionText d values.keys).toList = d.numbered 0 values.length := by
  have hplain : ∀ p ∈ Piece.word "INSERT INTO " :: .name s.relation :: recordPieces values,
      p.isPlain = true :=
    List.forall_mem_cons.mpr ⟨by decide,
      List.forall_mem_cons.mpr ⟨rfl, isPlain_recordPieces values⟩⟩
  have hnumbered := placeholders_statement (s := s) (d := d) hplain
  rw [statement_insertion] at hnumbered
  simpa [recordStatement] using hnumbered

theorem placeholders_changeText (values : Row Value) :
    d.placeholders (s.changeText d values.keys).toList = d.numbered 0 (values.length + 1) := by
  have hword : isPlainWord " = " = true := by decide
  have hassigned : ∀ p ∈ separated ", "
      (values.map fun x => [.name x.1, .word " = ", .slot (.value x.2)]), p.isPlain = true := by
    refine isPlain_separated (by decide) (List.forall_mem_map.mpr fun x _ => ?_)
    simpa [isPlain] using hword
  have hplain : ∀ p ∈ Piece.word "UPDATE " :: .name s.relation :: .word " SET " ::
      separated ", " (values.map fun x => [.name x.1, .word " = ", .slot (.value x.2)]) ++
        s.whereKey .null, p.isPlain = true := by
    simp only [List.cons_append, List.forall_mem_cons, List.forall_mem_append]
    exact ⟨by decide, rfl, by decide, hassigned, isPlain_whereKey .null⟩
  have hnumbered := placeholders_statement (s := s) (d := d) hplain
  rw [statement_change] at hnumbered
  simpa [recordStatement] using hnumbered

theorem placeholders_removalText :
    d.placeholders (s.removalText d).toList = d.numbered 0 1 := by
  have hplain : ∀ p ∈ Piece.word "DELETE FROM " :: .name s.relation :: s.whereKey .null,
      p.isPlain = true :=
    List.forall_mem_cons.mpr ⟨by decide,
      List.forall_mem_cons.mpr ⟨rfl, isPlain_whereKey .null⟩⟩
  have hnumbered := placeholders_statement (s := s) (d := d) hplain
  rw [← removal, removal_eq] at hnumbered
  simpa [recordStatement] using hnumbered

end Descriptor

end RecordMapper
