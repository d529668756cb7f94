import Mathlib
import RecordMapper.Proofs.Sql.Acceptance
import RecordMapper.Proofs.Sql.RecordText

/-! # Statements that write the rows of a query

A query whose rows are removed or changed says which rows and nothing else, and the statement has
the condition of the one that reads them. -/

namespace RecordMapper

open Outcome

variable {registry : Option Registry} {d : Dialect}

/-! ## Queries of rows -/

/-- Whether a clause says no more than which rows. -/
def Clause.filtersRows : Clause → Bool
  | .filter _ onGroups _ => !onGroups
  | .groupBy ts => ts.isEmpty
  | .orderBy items => items.isEmpty
  | _ => false

/-- A query of a source says which rows, by conditions that are allowed and joined by words of the
language, and nothing else. -/
structure Query.Filters (registry : Option Registry) (q : Query) (source : Bound) : Prop where
  root : ∃ name binding, q.root = .source name binding ∧ source = Plan.bind registry binding name
  clauses : ∀ c ∈ q.rest, c.filtersRows = true
  rows : ∀ f ∈ q.rowFilters, f.2.AllowedAt ⟨[source], .where⟩
  rowWords : ∀ f ∈ q.rowFilters.tail, f.1 = .and ∨ f.1 = .or

namespace Clause

theorem filtersRows_iff {c : Clause} :
    c.filtersRows = true ↔
      (c.isJoin = false ∧ c.isSource = false) ∧ c.selected? = none ∧ c.grouped = [] ∧
        c.groupFilter? = none ∧ c.ordered = [] ∧ c.limit? = none ∧ c.offset? = none ∧
        c.isDistinct = false ∧ c.ending? = none := by
  cases c with
  | filter t onGroups op =>
      cases onGroups <;> simp [filtersRows, isJoin, isSource, selected?, grouped, groupFilter?,
        ordered, limit?, offset?, isDistinct, ending?]
  | _ =>
      simp [filtersRows, isJoin, isSource, selected?, grouped, groupFilter?, ordered, limit?,
        offset?, isDistinct, ending?]

end Clause

namespace Plan

theorem joined_nil_iff {bindings : List Bound} {cs : List Clause} :
    Joined registry bindings cs [] ↔ ∀ c ∈ cs, c.isJoin = false ∧ c.isSource = false := by
  induction cs with
  | nil => simp [Joined.nil]
  | cons c cs ih =>
      rw [List.forall_mem_cons, ← ih]
      constructor
      · intro h
        cases h with
        | other hj hs hcs => exact ⟨⟨hj, hs⟩, hcs⟩
      · rintro ⟨⟨hj, hs⟩, hcs⟩
        exact .other hj hs hcs

theorem isBulk_ofJoins_iff {source : Bound} {q : Query} {js : List PlannedJoin} :
    (ofJoins source q js).isBulk = true ↔
      js = [] ∧ ∀ c ∈ q.rest, c.selected? = none ∧ c.grouped = [] ∧ c.groupFilter? = none ∧
        c.ordered = [] ∧ c.limit? = none ∧ c.offset? = none ∧ c.isDistinct = false ∧
        c.ending? = none := by
  have hdistinct : (ofJoins source q js).distinct = q.isDistinct := by
    simp [ofJoins, ofSource, extend, Query.isDistinct]
  simp only [isBulk, ofJoins_joins, ofJoins_projection, ofJoins_groupBy, ofJoins_groupCondition,
    ofJoins_orderBy, ofJoins_limit, ofJoins_offset, ofJoins_fragments, hdistinct,
    Bool.and_eq_true, List.isEmpty_iff, Option.isNone_iff_eq_none, combineAll_eq_none_iff,
    Bool.not_eq_true']
  simp only [Query.lastSelect, Query.grouped, Query.groupFilters, Query.ordered, Query.lastLimit,
    Query.lastOffset, Query.isDistinct, Query.endings, List.getLast?_eq_none_iff,
    List.filterMap_eq_nil_iff, List.flatMap_eq_nil_iff, List.any_eq_false, Bool.not_eq_true,
    forall_and, and_assoc]

/-- The plan of a statement that writes rows is that of its conditions. -/
theorem ofBulk_eq_ok_iff_filters {q : Query} {operation : BulkOperation} {p : Plan} :
    ofBulk registry q operation = .ok p ↔
      ∃ name binding, q.root = .source name binding ∧ (∀ c ∈ q.rest, c.filtersRows = true) ∧
        p = ofJoins (bind registry binding name) q [] := by
  simp only [ofBulk_eq_ok_iff, ofQuery_eq_ok_iff, Clause.filtersRows_iff]
  constructor
  · rintro ⟨⟨name, binding, js, hroot, hjoined, -, rfl⟩, hbulk⟩
    obtain ⟨rfl, hothers⟩ := isBulk_ofJoins_iff.mp hbulk
    have hplain := joined_nil_iff.mp hjoined
    exact ⟨name, binding, hroot, fun c hc => ⟨hplain c hc, hothers c hc⟩, rfl⟩
  · rintro ⟨name, binding, hroot, hclauses, rfl⟩
    have hjoined : Joined registry [bind registry binding name] q.rest [] :=
      joined_nil_iff.mpr fun c hc => (hclauses c hc).1
    have hbulk : (ofJoins (bind registry binding name) q []).isBulk = true :=
      isBulk_ofJoins_iff.mpr ⟨rfl, fun c hc => (hclauses c hc).2⟩
    exact ⟨⟨name, binding, [], hroot, hjoined, by simp, rfl⟩, hbulk⟩

theorem succeeds_wherePieces_ofJoins_iff {source : Bound} {q : Query} :
    Succeeds ((ofJoins source q []).wherePieces d) ↔
      (∀ f ∈ q.rowFilters, f.2.AllowedAt ⟨[source], .where⟩) ∧
        ∀ f ∈ q.rowFilters.tail, f.1 = .and ∨ f.1 = .or := by
  rw [wherePieces, ofJoins_condition, ofJoins_bindings, List.map_nil, succeeds_conditionPieces_iff]

theorem succeeds_assignment_iff {p : Plan} {x : String × Term} :
    Succeeds (assignment d p x) ↔
      p.source.HasField x.1 ∧ x.2.inPlace.AllowedAt ⟨p.bindings, .updateAll⟩ := by
  rw [assignment, ← Bound.succeeds_checkField_iff,
    ← Term.succeeds_pieces_iff_allowedAt (d := d)]
  refine succeeds_bind_iff_and fun _ _ => ?_
  cases hp : Parameter.ofTerm? x.2 with
  | some p => simp [Term.inPlace_of_some hp, Term.pieces_toTerm]
  | none =>
      rw [Term.inPlace_of_none hp]
      exact succeeds_bind_pure_iff

theorem succeeds_updateAllPieces_iff {p : Plan} {values : Row Term} :
    Succeeds (p.updateAllPieces d values) ↔
      (values ≠ [] ∧ ∀ x ∈ values,
        p.source.HasField x.1 ∧ x.2.inPlace.AllowedAt ⟨p.bindings, .updateAll⟩) ∧
        Succeeds (p.wherePieces d) := by
  have hassigned : Succeeds (values.mapM (assignment d p)) ↔ ∀ x ∈ values,
      p.source.HasField x.1 ∧ x.2.inPlace.AllowedAt ⟨p.bindings, .updateAll⟩ := by
    simp only [succeeds_mapM_iff, succeeds_assignment_iff]
  rw [updateAllPieces, ← hassigned]
  cases values with
  | nil => simp [succeeds_bind_iff]
  | cons x values =>
      simp only [List.isEmpty_cons, Bool.false_eq_true, if_false, ne_eq, reduceCtorEq,
        not_false_eq_true, true_and]
      refine succeeds_bind_iff_and fun _ _ => ?_
      exact succeeds_bind_pure_iff

theorem updateAllPieces_eq_ok {p : Plan} {values : Row Term} {ps : List Piece}
    (h : p.updateAllPieces d values = .ok ps) :
    ∃ assignments conditions, values.mapM (assignment d p) = .ok assignments ∧
      p.wherePieces d = .ok conditions ∧
      ps = .word "UPDATE " :: Piece.aliased p.source.relation p.source.name ++ .word " SET " ::
        Piece.separated ", " assignments ++ conditions ++ [.word " RETURNING *"] := by
  unfold updateAllPieces at h
  split at h
  · simp at h
  · simp only [bind_eq_ok_iff, pure_eq_ok_iff] at h
    obtain ⟨assignments, hassigned, conditions, hconditions, rfl⟩ := h
    exact ⟨assignments, conditions, hassigned, hconditions, rfl⟩

end Plan

namespace Query

variable {q : Query}

theorem filters_iff {source : Bound} :
    q.Filters registry source ↔
      ∃ name binding, q.root = .source name binding ∧ (∀ c ∈ q.rest, c.filtersRows = true) ∧
        source = Plan.bind registry binding name ∧
        Succeeds ((Plan.ofJoins source q []).wherePieces d) := by
  rw [Plan.succeeds_wherePieces_ofJoins_iff]
  constructor
  · rintro ⟨⟨name, binding, hroot, hsource⟩, hclauses, hrows, hwords⟩
    exact ⟨name, binding, hroot, hclauses, hsource, hrows, hwords⟩
  · rintro ⟨name, binding, hroot, hclauses, hsource, hrows, hwords⟩
    exact ⟨⟨name, binding, hroot, hsource⟩, hclauses, hrows, hwords⟩

theorem succeeds_compileDeleteAll_iff :
    Succeeds (q.compileDeleteAll registry d) ↔ ∃ source, q.Filters registry source := by
  have hplan : ∀ p : Plan, Succeeds (p.deleteAll d) ↔ Succeeds (p.wherePieces d) := by
    intro p
    rw [Plan.deleteAll, succeeds_bind_pure_iff, Plan.deleteAllPieces]
    exact succeeds_bind_pure_iff
  simp only [compileDeleteAll, succeeds_bind_iff, Plan.ofBulk_eq_ok_iff_filters, hplan,
    filters_iff (d := d)]
  constructor
  · rintro ⟨p, ⟨name, binding, hroot, hclauses, rfl⟩, hrows⟩
    exact ⟨_, name, binding, hroot, hclauses, rfl, hrows⟩
  · rintro ⟨source, name, binding, hroot, hclauses, rfl, hrows⟩
    exact ⟨_, ⟨name, binding, hroot, hclauses, rfl⟩, hrows⟩

theorem succeeds_compileUpdateAll_iff {values : Row Term} :
    Succeeds (q.compileUpdateAll registry d values) ↔
      ∃ source, q.Filters registry source ∧ values ≠ [] ∧
        ∀ x ∈ values, source.HasField x.1 ∧ x.2.inPlace.AllowedAt ⟨[source], .updateAll⟩ := by
  have hplan : ∀ p : Plan, Succeeds (p.updateAll d values) ↔
      Succeeds (p.updateAllPieces d values) := fun p => succeeds_bind_pure_iff
  simp only [compileUpdateAll, succeeds_bind_iff, Plan.ofBulk_eq_ok_iff_filters, hplan,
    Plan.succeeds_updateAllPieces_iff, filters_iff (d := d)]
  constructor
  · rintro ⟨p, ⟨name, binding, hroot, hclauses, rfl⟩, hvalues, hrows⟩
    exact ⟨_, ⟨name, binding, hroot, hclauses, rfl, hrows⟩, hvalues⟩
  · rintro ⟨source, ⟨name, binding, hroot, hclauses, rfl, hrows⟩, hvalues⟩
    exact ⟨_, ⟨name, binding, hroot, hclauses, rfl⟩, hvalues, hrows⟩

/-! ## Texts -/

end Query

/-- What is bound, under its name. -/
def Bound.aliasedText (b : Bound) : String :=
  Dialect.quoted b.relation ++ " AS " ++ Dialect.quoted b.name

/-- What is put out of what is bound when nothing is said: the stored fields, or all columns. -/
def Bound.recordText (b : Bound) : String :=
  match b.schema with
  | none => Dialect.quoted b.name ++ ".*"
  | some schema =>
    ", ".intercalate (schema.storedNames.map fun n =>
      Dialect.quoted b.name ++ "." ++ Dialect.quoted n)

namespace Piece

/-- Where placeholders have no numbers, it does not matter what is bound before. -/
theorem render_eq_of_not_isNumbered (h : d.isNumbered = false) (bound : Nat) (ps : List Piece) :
    render d bound ps = render d 0 ps := by
  have hplace : ∀ m n : Int, d.placeholder m = d.placeholder n := by
    intro m n
    simp [Dialect.placeholder, h]
  induction ps generalizing bound with
  | nil => rfl
  | cons p ps ih =>
      cases p with
      | slot p => rw [render, render, ih (bound + 1), ih (0 + 1), hplace]
      | unplaced p => rw [render, render, ih (bound + 1), ih (0 + 1)]
      | _ => rw [render, render, ih]

theorem render_aliased (bound : Nat) (b : Bound) :
    render d bound (aliased b.relation b.name) = b.aliasedText.toList := by
  simp [aliased, render, Bound.aliasedText, Dialect.quoted]

theorem parameters_aliased (relation binding : String) :
    parameters (aliased relation binding) = [] := rfl

theorem parameters_record (b : Bound) : parameters (Plan.record b).pieces = [] := by
  unfold Plan.record
  cases b.schema with
  | none => rfl
  | some schema =>
      rw [parameters_separated]
      exact List.flatMap_eq_nil_iff.mpr (List.forall_mem_map.mpr fun _ _ => rfl)

theorem render_record (bound : Nat) (b : Bound) :
    render d bound (Plan.record b).pieces = b.recordText.toList := by
  unfold Plan.record Bound.recordText
  cases b.schema with
  | none => simp [render, Dialect.quoted]
  | some schema =>
      have hnone : ∀ qs ∈ (schema.stored.map Field.name).map fun n =>
          [Piece.name b.name, .word ".", .name n], parameters qs = [] :=
        List.forall_mem_map.mpr fun _ _ => rfl
      rw [render_separated, renderEach_of_parameters_eq_nil _ hnone]
      simp [Descriptor.storedNames, Dialect.quoted, render, Function.comp_def]

end Piece

namespace Query

variable {q : Query} {source : Bound}

theorem Filters.plan (h : q.Filters registry source) :
    Plan.ofQuery registry q = .ok (Plan.ofJoins source q []) ∧
      ∀ operation, Plan.ofBulk registry q operation = .ok (Plan.ofJoins source q []) := by
  obtain ⟨name, binding, hroot, rfl⟩ := h.root
  have hbulk : ∀ operation, Plan.ofBulk registry q operation =
      .ok (Plan.ofJoins (Plan.bind registry binding name) q []) := fun operation =>
    Plan.ofBulk_eq_ok_iff_filters.mpr ⟨name, binding, hroot, h.clauses, rfl⟩
  exact ⟨(Plan.ofBulk_eq_ok_iff.mp (hbulk .deleteAll)).1, hbulk⟩

/-- No clause but a condition on rows says anything. -/
theorem Filters.eq_nil (h : q.Filters registry source) :
    q.lastSelect = none ∧ q.isDistinct = false ∧ q.grouped = [] ∧ q.groupFilters = [] ∧
      q.ordered = [] ∧ q.lastLimit = none ∧ q.lastOffset = none ∧ q.endings = [] := by
  have hclauses := fun c hc => Clause.filtersRows_iff.mp (h.clauses c hc)
  simp only [forall_and] at hclauses
  obtain ⟨-, hselected, hgrouped, hgroups, hordered, hlimit, hoffset, hdistinct, hending⟩ :=
    hclauses
  simp only [lastSelect, isDistinct, grouped, groupFilters, ordered, lastLimit, lastOffset, endings,
    List.getLast?_eq_none_iff, List.filterMap_eq_nil_iff, List.flatMap_eq_nil_iff,
    List.any_eq_false, Bool.not_eq_true]
  exact ⟨hselected, hdistinct, hgrouped, hgroups, hordered, hlimit, hoffset, hending⟩

theorem Filters.exists_wherePieces (h : q.Filters registry source) :
    ∃ ps, (Plan.ofJoins source q []).wherePieces d = .ok ps :=
  Plan.succeeds_wherePieces_ofJoins_iff.mpr ⟨h.rows, h.rowWords⟩

theorem Filters.compile_eq (h : q.Filters registry source) {ps : List Piece}
    (hps : (Plan.ofJoins source q []).wherePieces d = .ok ps) :
    q.compile registry d = .ok (Statement.ofPieces d
      (.word "SELECT " :: (Plan.record source).pieces ++ .word " FROM " ::
        Piece.aliased source.relation source.name ++ ps)
      (Plan.record source).columns (Plan.record source).source) := by
  obtain ⟨hselect, hdistinct, hgrouped, hgroups, hordered, hlimit, hoffset, hendings⟩ := h.eq_nil
  have hplain : (Plan.ofJoins source q []).distinct = false := by
    rw [← hdistinct]
    simp [Plan.ofJoins, Plan.ofSource, Plan.extend, isDistinct]
  have hpieces : (Plan.ofJoins source q []).selectPieces d (Plan.record source) =
      .ok (.word "SELECT " :: (Plan.record source).pieces ++ .word " FROM " ::
        Piece.aliased source.relation source.name ++ ps) := by
    simp [Plan.selectPieces, hps, hplain, Plan.groupPieces, Plan.havingPieces, Plan.orderPieces,
      Plan.fragmentPieces, hgrouped, hgroups, hordered, hlimit, hoffset, hendings,
      Term.piecesOfAll, Plan.clausePieces, Plan.conditionPieces, Plan.countPieces, Plan.combineAll]
  simp [compile, h.plan.1, Plan.select, Plan.projected, hselect, hpieces]

theorem Filters.parameters_compile (h : q.Filters registry source) {s : Statement}
    (hs : q.compile registry d = .ok s) :
    s.parameters = (q.rowFilters.map Prod.snd).flatMap Term.bound := by
  obtain ⟨hselect, -, hgrouped, hgroups, hordered, hlimit, hoffset, hendings⟩ := h.eq_nil
  have hjoins : q.joinTerms = [] := by
    refine List.filterMap_eq_nil_iff.mpr fun c hc => ?_
    have hjoin := (Clause.filtersRows_iff.mp (h.clauses c hc)).1.1
    cases c <;> first | rfl | cases hjoin
  rw [Request.parameters_statement (r := .select) hs]
  simp [Request.terms, hselect, hjoins, hgrouped, hgroups, hordered, hlimit, hoffset, hendings]

/-- What reads the rows of a query: the stored fields of the source are put out, and `rows` is the
text of the condition at the end, if there is one. -/
structure Reads (q : Query) (source : Bound) (s : Statement) (rows : String) : Prop where
  text : s.text = "SELECT " ++ source.recordText ++ " FROM " ++ source.aliasedText ++ rows
  all : q.rowFilters = [] → rows = ""
  some : q.rowFilters ≠ [] → ∃ condition, rows = " WHERE " ++ condition

theorem Filters.reads (h : q.Filters registry source) {ps : List Piece}
    (hps : (Plan.ofJoins source q []).wherePieces d = .ok ps) :
    ∃ s, q.compile registry d = .ok s ∧
      q.Reads source s (String.ofList (Piece.render d 0 ps)) := by
  refine ⟨_, h.compile_eq hps, ?_, ?_, ?_⟩
  · apply String.toList_injective
    simp only [Statement.ofPieces, String.toList_ofList, String.toList_append, List.append_assoc,
      List.cons_append, Piece.render, Piece.render_append, Piece.render_record,
      Piece.parameters_record, Piece.render_aliased, Piece.parameters_aliased, List.length_nil,
      Nat.add_zero]
  · intro hnone
    rw [Plan.wherePieces, Plan.ofJoins_condition, Plan.combineAll_eq_none_iff.mpr hnone] at hps
    cases hps
    rfl
  · intro hsome
    rw [Plan.wherePieces, Plan.ofJoins_condition] at hps
    cases ht : Plan.combineAll none q.rowFilters with
    | none => exact absurd (Plan.combineAll_eq_none_iff.mp ht) hsome
    | some t =>
        simp only [ht, Plan.conditionPieces, bind_eq_ok_iff, pure_eq_ok_iff] at hps
        obtain ⟨qs, -, rfl⟩ := hps
        refine ⟨String.ofList (Piece.render d 0 qs), String.toList_injective ?_⟩
        simp only [Piece.render, String.toList_ofList, String.toList_append]

theorem Filters.compileDeleteAll (h : q.Filters registry source) {ps : List Piece}
    (hps : (Plan.ofJoins source q []).wherePieces d = .ok ps) :
    ∃ s, q.compileDeleteAll registry d = .ok s ∧
      s.text = "DELETE FROM " ++ source.aliasedText ++ String.ofList (Piece.render d 0 ps) ++
        " RETURNING *" ∧
      s.parameters = (q.rowFilters.map Prod.snd).flatMap Term.bound := by
  have hs : q.compileDeleteAll registry d = .ok (Statement.ofPieces d
      (.word "DELETE FROM " :: Piece.aliased source.relation source.name ++ ps ++
        [.word " RETURNING *"]) [] none) := by
    simp [Query.compileDeleteAll, h.plan.2, Plan.deleteAll, Plan.deleteAllPieces, hps]
  refine ⟨_, hs, ?_, Request.parameters_statement (r := .deleteAll) hs⟩
  apply String.toList_injective
  simp [Statement.ofPieces, Piece.render, Piece.render_append, Piece.render_aliased,
    Piece.parameters_aliased]

theorem Filters.compileUpdateAll (h : q.Filters registry source) {ps : List Piece}
    (hps : (Plan.ofJoins source q []).wherePieces d = .ok ps) {values : Row Term} {s : Statement}
    (hs : q.compileUpdateAll registry d values = .ok s) :
    s.parameters = values.flatMap (fun x => x.2.inPlace.bound) ++
        (q.rowFilters.map Prod.snd).flatMap Term.bound ∧
      (d.isNumbered = false → ∃ assignments,
        values.mapM (Plan.assignment d (Plan.ofSource source)) = .ok assignments ∧
          s.text = "UPDATE " ++ source.aliasedText ++ " SET " ++
            String.ofList (Piece.render d 0 (Piece.separated ", " assignments)) ++
            String.ofList (Piece.render d 0 ps) ++ " RETURNING *") := by
  refine ⟨?_, fun hd => ?_⟩
  · rw [Request.parameters_statement (r := .updateAll values) hs]
    simp [Request.terms, List.flatMap_map]
  · simp only [Query.compileUpdateAll, h.plan.2, Plan.updateAll, bind_eq_ok_iff,
      Except.ok.injEq, exists_eq_left', pure_eq_ok_iff] at hs
    obtain ⟨_, hpieces, rfl⟩ := hs
    obtain ⟨assignments, conditions, hassigned, hconditions, rfl⟩ :=
      Plan.updateAllPieces_eq_ok hpieces
    cases hps.symm.trans hconditions
    refine ⟨assignments, hassigned, String.toList_injective ?_⟩
    simp only [Statement.ofPieces, String.toList_ofList, String.toList_append, List.append_assoc,
      List.cons_append, Piece.render, Piece.render_append, Plan.ofJoins_source,
      Piece.render_aliased, Piece.parameters_aliased, List.length_nil, Nat.add_zero,
      List.append_nil, Piece.render_eq_of_not_isNumbered hd (0 + _)]

/-- Rows are removed and changed exactly for a query that says which rows and nothing else, and they
are those that the query reads: the statement has the condition of the one that reads them, and
binds what that one binds. What a change sets is written and bound before, and does not depend on
the conditions. -/
theorem bulk_iff_filters (registry : Option Registry) (d : Dialect) (q : Query) :
    (Succeeds (q.compileDeleteAll registry d) ↔ ∃ source, q.Filters registry source) ∧
      (∀ values, Succeeds (q.compileUpdateAll registry d values) ↔
        ∃ source, q.Filters registry source ∧ values ≠ [] ∧
          ∀ x ∈ values, source.HasField x.1 ∧ x.2.inPlace.AllowedAt ⟨[source], .updateAll⟩) ∧
      ∀ source, q.Filters registry source → ∃ read rows,
        q.compile registry d = .ok read ∧ q.Reads source read rows ∧
          (∃ s, q.compileDeleteAll registry d = .ok s ∧
            s.text = "DELETE FROM " ++ source.aliasedText ++ rows ++ " RETURNING *" ∧
            s.parameters = read.parameters) ∧
          ∀ values s, q.compileUpdateAll registry d values = .ok s →
            s.parameters = values.flatMap (fun x => x.2.inPlace.bound) ++ read.parameters ∧
              (d.isNumbered = false → ∃ assignments,
                values.mapM (Plan.assignment d (Plan.ofSource source)) = .ok assignments ∧
                  s.text = "UPDATE " ++ source.aliasedText ++ " SET " ++
                    String.ofList (Piece.render d 0 (Piece.separated ", " assignments)) ++ rows ++
                    " RETURNING *") := by
  refine ⟨succeeds_compileDeleteAll_iff, fun _ => succeeds_compileUpdateAll_iff, fun source h => ?_⟩
  obtain ⟨ps, hps⟩ := h.exists_wherePieces (d := d)
  obtain ⟨read, hread, hreads⟩ := h.reads hps
  obtain ⟨s, hs, htext, hparameters⟩ := h.compileDeleteAll hps
  have hbound := h.parameters_compile hread
  refine ⟨read, _, hread, hreads, ⟨s, hs, htext, hparameters.trans hbound.symm⟩, ?_⟩
  intro values s hs
  rw [hbound]
  exact h.compileUpdateAll hps hs

/-- The rows of a table whose number is five are read, removed and given a letter. -/
theorem bulk_iff_filters_comparison :
    let q : Query := ⟨.source "t" "t",
      [.filter (.binary .eq (.field "t" "n") (.literal (.int 5))) false .and]⟩
    q.Filters none ⟨"t", "t", none⟩ ∧
      (∃ s, q.compileDeleteAll none .sqlite = .ok s ∧ s.parameters = [.value (.int 5)]) ∧
      ∃ s, q.compileUpdateAll none .sqlite [("c", .plain (.string "a"))] = .ok s ∧
        s.parameters = [.value (.string "a"), .value (.int 5)] := by
  intro q
  have hread : q.compile none .sqlite = .ok
      ⟨"SELECT \"t\".* FROM \"t\" AS \"t\" WHERE (\"t\".\"n\" = ?)", [.value (.int 5)], [],
        none⟩ := by
    cbv
  have hfilters : q.Filters none ⟨"t", "t", none⟩ :=
    { root := ⟨"t", "t", rfl, rfl⟩
      clauses := by simp [q, Clause.filtersRows]
      rows := by
        simp [q, rowFilters, Clause.rowFilter?, Term.AllowedAt, Term.nodes, Term.FitsAt,
          Plan.lookUp, Bound.HasField, Operator.all, Term.isNullLiteral]
      rowWords := by simp [q, rowFilters, Clause.rowFilter?] }
  have hvalues : ∀ x ∈ [("c", Term.plain (.string "a"))], Bound.HasField ⟨"t", "t", none⟩ x.1 ∧
      x.2.inPlace.AllowedAt ⟨[⟨"t", "t", none⟩], .updateAll⟩ := by
    simp [Bound.HasField, Term.inPlace, Parameter.ofTerm?, Term.isTerm, Parameter.toTerm,
      Term.AllowedAt, Term.nodes, Term.FitsAt]
  obtain ⟨-, hupdate, hrows⟩ := bulk_iff_filters none .sqlite q
  obtain ⟨read, rows, hread', -, ⟨s, hs, -, hparameters⟩, hchanged⟩ := hrows _ hfilters
  cases hread.symm.trans hread'
  obtain ⟨u, hu⟩ := (hupdate [("c", .plain (.string "a"))]).mpr
    ⟨_, hfilters, by simp, hvalues⟩
  exact ⟨hfilters, ⟨s, hs, hparameters⟩, u, hu, (hchanged _ u hu).1⟩

end Query

end RecordMapper
