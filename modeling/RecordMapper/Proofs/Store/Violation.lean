import RecordMapper.Proofs.Store.Sqlite
import RecordMapper.Proofs.Text.Listing
import RecordMapper.Proofs.Value.Comparison
import RecordMapper.Store.Script

/-! # Violations of unique constraints

A message about a unique constraint names a table and columns. The name of the failure is that of a
unique index of the table that covers exactly these columns, if the connection reports one. -/

namespace RecordMapper

open Procedure

variable {σ : Type}

/-! ## What a connection reports -/

namespace Connection

/-- The states that a connection gets to while it is asked for indexes. -/
inductive Looks (c : Connection σ) : σ → σ → Prop where
  | refl (s : σ) : Looks c s s
  | step {s t : σ} {text : String} : Looks c s t → Sqlite.IsLookup text →
      Looks c s (c.execute text [] t).2

/-- A row of an index list. -/
def Lists (row : List Value) (i : Index) : Prop :=
  ∃ number rest, row = number :: .string i.name :: i.unique :: rest

/-- A row of an index description. -/
def Describes (row : List Value) (column : Value) : Prop :=
  ∃ number place rest, row = number :: place :: column :: rest

/-- From a state on, a connection reports the indexes of a table whenever it is asked for them. -/
structure Reports (c : Connection σ) (table : String) (indexes : List Index) (s : σ) : Prop where
  list : ∀ t, c.Looks s t → ∃ cursor,
    (c.execute s!"PRAGMA index_list(\"{table}\")" [] t).1.result = .ok cursor ∧
      List.Forall₂ Lists cursor.rows indexes
  info : ∀ t, c.Looks s t → ∀ i ∈ indexes, ∃ cursor,
    (c.execute s!"PRAGMA index_info(\"{i.name}\")" [] t).1.result = .ok cursor ∧
      List.Forall₂ Describes cursor.rows i.columns

end Connection

/-- A unique index covers columns: exactly these, in their order. -/
def Index.Covers (i : Index) (columns : List String) : Prop :=
  i.unique.isFalsy = false ∧ i.columns = columns.map .string

namespace Value

theorem equal?_string_iff {v : Value} {s : String} :
    equal? v (.string s) = some true ↔ v = .string s := by
  cases v <;> simp [equal?, number?]

theorem equalLists?_map_string_iff {vs : List Value} {ss : List String} :
    equalLists? vs (ss.map .string) = some true ↔ vs = ss.map .string := by
  induction ss generalizing vs with
  | nil => cases vs <;> simp [equalLists?]
  | cons s ss ih =>
      cases vs with
      | nil => simp [equalLists?]
      | cons v vs =>
          rw [List.map_cons, equalLists?, List.cons.injEq, ← ih, ← equal?_string_iff]
          split <;> simp_all

theorem equal_list_map_string_iff {vs : List Value} {ss : List String} :
    equal (.list vs) (.list (ss.map .string)) = true ↔ vs = ss.map .string := by
  rw [equal, beq_iff_eq, equal?]
  split
  · exact equalLists?_map_string_iff
  · rename_i hlength
    simp only [Option.some.injEq, Bool.false_eq_true, false_iff]
    rintro rfl
    exact hlength rfl

end Value

namespace Sqlite

variable {q : Sqlite σ} {table : String} {columns : List String} {indexes : List Index} {s t : σ}

/-! ## The index that is named -/

theorem filterMap_uniqueIndex? {rows : List (List Value)}
    (h : List.Forall₂ Connection.Lists rows indexes) :
    (rows.filterMap uniqueIndex?).map nameText =
      (indexes.filter fun i => !i.unique.isFalsy).map Index.name := by
  induction h with
  | nil => rfl
  | @cons row i rows indexes hrow _ ih =>
      obtain ⟨number, rest, rfl⟩ := hrow
      cases hunique : i.unique.isFalsy <;> simp [uniqueIndex?, nameText, hunique, ih]

theorem map_indexColumn {rows : List (List Value)} {described : List Value}
    (h : List.Forall₂ Connection.Describes rows described) : rows.map indexColumn = described := by
  induction h with
  | nil => rfl
  | @cons row column rows described hrow _ ih =>
      obtain ⟨number, place, rest, rfl⟩ := hrow
      rw [List.map_cons, ih, indexColumn]

theorem mem_of_preferred {names : List String} {name : String} (h : preferred names = some name) :
    name ∈ names := by
  unfold preferred at h
  cases hown : names.find? fun n => !isAutomatic n with
  | some n =>
      rw [hown] at h
      exact Option.some.inj h ▸ List.mem_of_find?_eq_some hown
  | none =>
      rw [hown] at h
      exact List.mem_of_mem_head? h

theorem eq_nil_of_preferred {names : List String} (h : preferred names = none) : names = [] := by
  unfold preferred at h
  cases hown : names.find? fun n => !isAutomatic n with
  | some n =>
      rw [hown] at h
      cases h
  | none =>
      rw [hown] at h
      exact List.head?_eq_none_iff.mp h

/-- Whether the columns of an index are exactly those, in their order. -/
def hasColumns (columns : List String) (i : Index) : Bool :=
  Value.equal (.list i.columns) (.list (columns.map .string))

/-- The indexes that cover columns, in the order in which they are reported. -/
def coveringIndexes (indexes : List Index) (columns : List String) : List Index :=
  (indexes.filter fun i => !i.unique.isFalsy).filter (hasColumns columns)

theorem mem_coveringIndexes_iff {i : Index} :
    i ∈ coveringIndexes indexes columns ↔ i ∈ indexes ∧ i.Covers columns := by
  simp [coveringIndexes, hasColumns, Index.Covers, Value.equal_list_map_string_iff, and_comm]

/-- The name of the index that is named for columns. -/
def coveringName (indexes : List Index) (columns : List String) : Option String :=
  preferred ((coveringIndexes indexes columns).map Index.name)

theorem covers_of_coveringName_eq_some {name : String}
    (h : coveringName indexes columns = some name) :
    ∃ i ∈ indexes, i.Covers columns ∧ i.name = name := by
  obtain ⟨i, hi, hname⟩ := List.mem_map.mp (mem_of_preferred h)
  obtain ⟨hmem, hcovers⟩ := mem_coveringIndexes_iff.mp hi
  exact ⟨i, hmem, hcovers, hname⟩

theorem not_covers_of_coveringName_eq_none (h : coveringName indexes columns = none) :
    ∀ i ∈ indexes, ¬ i.Covers columns := by
  intro i hi hcovers
  have hmem : i ∈ coveringIndexes indexes columns := mem_coveringIndexes_iff.mpr ⟨hi, hcovers⟩
  rw [List.map_eq_nil_iff.mp (eq_nil_of_preferred h)] at hmem
  cases hmem

/-- Out of the names of reported indexes, those of the covering ones are kept. -/
theorem runFrom_covering (h : q.connection.Reports table indexes s) (columns : List String)
    {is : List Index} (his : ∀ i ∈ is, i ∈ indexes) (ht : q.connection.Looks s t) (n : Nat) :
    ∃ u, q.connection.Looks s u ∧
      (q.covering columns (is.map Index.name)).runFrom ⟨t, n⟩ =
        (.ok ((is.filter (hasColumns columns)).map Index.name), ⟨u, n⟩) := by
  induction is generalizing t with
  | nil => exact ⟨t, ht, rfl⟩
  | cons i is ih =>
      rw [List.forall_mem_cons] at his
      obtain ⟨cursor, hcursor, hdescribed⟩ := h.info t ht i his.1
      obtain ⟨u, hu, hrest⟩ := ih his.2 (ht.step (.info i.name))
      have htest : Value.equal (.list i.columns) (.list (columns.map .string)) =
          hasColumns columns i := rfl
      refine ⟨u, hu, ?_⟩
      simp only [List.map_cons, covering, runFrom_bind, runFrom_command, hcursor, hrest,
        map_indexColumn hdescribed, htest, List.filter_cons]
      split <;> rfl

/-- A covering index is named, if there is any. -/
theorem runFrom_uniqueIndexName (h : q.connection.Reports table indexes s) (columns : List String)
    (n : Nat) :
    ∃ u, (q.uniqueIndexName table columns).runFrom ⟨s, n⟩ =
      (.ok (coveringName indexes columns), u) := by
  obtain ⟨cursor, hcursor, hlisted⟩ := h.list s (.refl s)
  have hkept : ∀ i ∈ indexes.filter fun i => !i.unique.isFalsy, i ∈ indexes := fun i hi =>
    (List.mem_filter.mp hi).1
  obtain ⟨u, -, hcovering⟩ := runFrom_covering h columns hkept
    ((Connection.Looks.refl s).step (.list table)) n
  refine ⟨⟨u, n⟩, ?_⟩
  simp only [uniqueIndexName, runFrom_bind, runFrom_command, hcursor,
    filterMap_uniqueIndex? hlisted, hcovering]
  rfl

/-! ## The message -/

/-- A column after its table. -/
def qualifiedColumn (table column : String) : List Char := table.toList ++ '.' :: column.toList

/-- The columns of a table, as a message lists them. -/
def listedColumns (table : String) (columns : List String) : List Char :=
  ", ".toList.intercalate (columns.map (qualifiedColumn table))

/-- What a message about a unique constraint begins with. -/
def uniqueMark : String := "UNIQUE constraint failed: "

/-- The message about a unique constraint on columns of a table. -/
def uniqueMessage (table : String) (columns : List String) : String :=
  uniqueMark ++ String.ofList (listedColumns table columns)

/-- A name without dots, commas and blanks. -/
def IsPlain (name : String) : Prop :=
  ∀ c ∈ name.toList, c ≠ '.' ∧ c ≠ ',' ∧ Text.isBlank c = false

instance (name : String) : Decidable (IsPlain name) :=
  List.decidableBAll _ name.toList

theorem ne_comma_of_mem_qualifiedColumn {column : String} (htable : IsPlain table)
    (hcolumn : IsPlain column) :
    ∀ c ∈ qualifiedColumn table column, c ≠ ',' ∧ Text.isBlank c = false := by
  intro c hc
  rcases List.mem_append.mp hc with hc | hc
  · exact (htable c hc).2
  · rcases List.mem_cons.mp hc with rfl | hc
    · decide
    · exact (hcolumn c hc).2

theorem listedColumns_ne_nil (hne : columns ≠ []) : listedColumns table columns ≠ [] := by
  obtain ⟨column, columns, rfl⟩ := List.exists_cons_of_ne_nil hne
  exact Text.intercalate_ne_nil (by simp [qualifiedColumn]) _ _

theorem feed_notMem_listedColumns (htable : IsPlain table) (hcolumns : ∀ c ∈ columns, IsPlain c) :
    '\n' ∉ listedColumns table columns := by
  intro hline
  rcases Text.mem_of_mem_intercalate hline with hc | ⟨p, hp, hc⟩
  · revert hc
    decide
  · obtain ⟨name, hname, rfl⟩ := List.mem_map.mp hp
    have hblank := (ne_comma_of_mem_qualifiedColumn htable (hcolumns name hname) _ hc).2
    revert hblank
    decide

theorem lineAfter?_uniqueMessage (htable : IsPlain table) (hcolumns : ∀ c ∈ columns, IsPlain c)
    (hne : columns ≠ []) :
    Text.lineAfter? uniqueMark.toList (uniqueMessage table columns).toList =
      some (listedColumns table columns) := by
  rw [uniqueMessage, String.toList_append, String.toList_ofList]
  exact Text.lineAfter?_append (by decide) (listedColumns_ne_nil hne)
    (feed_notMem_listedColumns htable hcolumns)

theorem qualifiedColumns_listedColumns (htable : IsPlain table)
    (hcolumns : ∀ c ∈ columns, IsPlain c) (hne : columns ≠ []) :
    qualifiedColumns (listedColumns table columns) = columns.map (qualifiedColumn table) := by
  refine Text.map_trim_splitAt_intercalate (by simpa using hne) ?_ ?_
  · intro p hp hcomma
    obtain ⟨name, hname, rfl⟩ := List.mem_map.mp hp
    exact (ne_comma_of_mem_qualifiedColumn htable (hcolumns name hname) _ hcomma).1 rfl
  · intro p hp c hc
    obtain ⟨name, hname, rfl⟩ := List.mem_map.mp hp
    exact (ne_comma_of_mem_qualifiedColumn htable (hcolumns name hname) c hc).2

theorem before_qualifiedColumn (htable : IsPlain table) (column : String) :
    String.ofList (Text.before '.' (qualifiedColumn table column)) = table := by
  have hdot : '.' ∉ table.toList := fun hmem => (htable '.' hmem).1 rfl
  rw [qualifiedColumn, Text.before_append hdot, String.ofList_toList]

theorem after_qualifiedColumn (htable : IsPlain table) (column : String) :
    String.ofList (Text.after '.' (qualifiedColumn table column)) = column := by
  have hdot : '.' ∉ table.toList := fun hmem => (htable '.' hmem).1 rfl
  rw [qualifiedColumn, Text.after_append hdot, String.ofList_toList]

/-- The failure that a broken unique constraint is has the name of a covering index. -/
theorem runFrom_violation (h : q.connection.Reports table indexes s) (htable : IsPlain table)
    (hcolumns : ∀ c ∈ columns, IsPlain c) (hne : columns ≠ []) (n : Nat) :
    ∃ u, (q.violation (uniqueMessage table columns)).runFrom ⟨s, n⟩ =
      (.ok (.violation (coveringName indexes columns) (some "unique")
        (some (uniqueMessage table columns))), u) := by
  obtain ⟨u, hname⟩ := runFrom_uniqueIndexName h columns n
  obtain ⟨column, rest, hcons⟩ := List.exists_cons_of_ne_nil hne
  have hfirst : String.ofList (Text.before '.'
      ((columns.map (qualifiedColumn table)).headD [])) = table := by
    rw [hcons]
    exact before_qualifiedColumn htable column
  have hall : (columns.map (qualifiedColumn table)).map (fun c =>
      String.ofList (Text.after '.' c)) = columns := by
    rw [List.map_map]
    refine (List.map_congr_left fun c _ => ?_).trans (List.map_id columns)
    exact after_qualifiedColumn htable c
  have hline := lineAfter?_uniqueMessage htable hcolumns hne
  rw [uniqueMark] at hline
  refine ⟨u, ?_⟩
  simp only [violation, hline,
    qualifiedColumns_listedColumns htable hcolumns hne, hfirst, hall, runFrom_bind, hname]
  rfl

/-! ## Statements that break a constraint -/

/-- A statement gets to the connection and ends there with an error, in a state in which the
connection is left, and was not told to give up. A deadline is not up before it, and at no moment it
is asked for. -/
inductive FailsWith (q : Sqlite σ) (st : Statement) (s : SqliteState σ) (e : ConnectionError)
    (t : σ) : Option Deadline → Prop where
  | unlimited {parameters : List Parameter} {asked : List Moment} :
      st.parameters.mapM stored = .ok parameters →
      q.connection.execute st.text parameters s.connection = (⟨asked, .error e⟩, t) →
      FailsWith q st s e t none
  | limited {parameters : List Parameter} {asked : List Moment} {d : Deadline} :
      st.parameters.mapM stored = .ok parameters →
      d.verdict? (q.connection.moment s.connection) = none →
      q.connection.execute st.text parameters
        (q.connection.watch q.interval (some fun m => (d.verdict? m).isSome) s.connection) =
          (⟨asked, .error e⟩, t) →
      asked.findSome? d.verdict? = none →
      FailsWith q st s e t (some d)

theorem runFrom_run_of_error {text : String} {parameters : List Parameter} {asked : List Moment}
    {e : ConnectionError} {verdict? : Moment → Option StorageError} {s : SqliteState σ}
    (hreply : q.connection.execute text parameters s.connection = (⟨asked, .error e⟩, t))
    (hverdict : asked.findSome? verdict? = none) :
    (q.run text parameters verdict?).runFrom s = (q.fail e).runFrom ⟨t, s.depth⟩ := by
  simp only [run, runFrom_bind, runFrom_ofFunction, onConnection, hreply, hverdict]

/-- The error is looked into, and what is found is the failure of the store. -/
theorem runFrom_execute_of_failsWith {st : Statement} {s : SqliteState σ} {e : ConnectionError}
    {d : Option Deadline} (h : q.FailsWith st s e t d) :
    ((q.execute st d).runFrom s).1 =
      ((q.fail e : Procedure _ _ (List (Row Value))).runFrom ⟨t, s.depth⟩).1 := by
  cases h with
  | @unlimited parameters asked hparameters hreply =>
      have hnone : asked.findSome? (fun _ => (none : Option StorageError)) = none :=
        List.findSome?_eq_none_iff.mpr fun _ _ => rfl
      simp only [execute, hparameters]
      rw [runFrom_run_of_error hreply hnone]
  | @limited parameters asked d hparameters hnow hreply hverdict =>
      have hrun := runFrom_run_of_error (s := q.asking d s) hreply hverdict
      simp only [execute, hparameters, runFrom_runUnder, hnow, hrun]
      rfl

/-- A statement that breaks a unique constraint fails with the name of a covering index. -/
theorem runFrom_execute_of_unique (h : q.connection.Reports table indexes t)
    (htable : IsPlain table) (hcolumns : ∀ c ∈ columns, IsPlain c) (hne : columns ≠ [])
    {st : Statement} {s : SqliteState σ} {d : Option Deadline}
    (hfails : q.FailsWith st s ⟨.integrity, uniqueMessage table columns⟩ t d) :
    ((q.execute st d).runFrom s).1 =
      .error (.storage (.violation (coveringName indexes columns) (some "unique")
        (some (uniqueMessage table columns)))) := by
  obtain ⟨u, hviolation⟩ := runFrom_violation h htable hcolumns hne s.depth
  rw [runFrom_execute_of_failsWith hfails, fail, runFrom_bind, runFrom_adapt, failure,
    if_pos rfl, hviolation]
  rfl

end Sqlite

end RecordMapper
