import RecordMapper.Proofs.Row
import RecordMapper.Proofs.Sql.Acceptance
import RecordMapper.Proofs.Sql.RecordText
import RecordMapper.Proofs.Sql.ValueOrder
import RecordMapper.Store.Sqlite

/-! # Columns of an answer

A statement that reads rows has one column for each term that is put out. The name of a column is
said after its term, or the term is a field of that name. No two columns have one name, so a row of
the answer loses none of them when it becomes values by name. -/

namespace RecordMapper

open Outcome

/-- Of a cursor whose columns have different names, every row is kept as a whole. -/
theorem Sqlite.rowsOf_of_nodup {names : List String} (h : names.Nodup) {rows : List (List Value)}
    (hrows : ∀ row ∈ rows, row.length = names.length) :
    rowsOf ⟨some names, rows⟩ = rows.map names.zip := by
  refine List.map_congr_left fun row hrow => ?_
  have hkeys : Row.keys (names.zip row) = names :=
    List.map_fst_zip (Nat.le_of_eq (hrows row hrow).symm)
  exact Row.overlay_of_nodup (r := []) (hkeys.symm ▸ h)

/-! ## The columns of terms -/

namespace Column

open Piece

variable {d : Dialect} {s : Scope} {used : List String} {position bound : Nat} {t : Term}
  {ts : List Term} {c : Column} {cs : List Column}

/-- A term is put out as a column of a name, so many values being bound before: the name is said
after the term, or the term is a field of that name. -/
inductive Shows (d : Dialect) (s : Scope) (bound : Nat) : Term → String → List Char → Prop
  | named {t : Term} {ps : List Piece} (name : String)
      (hps : (termOf t).pieces d s false = .ok ps) :
      Shows d s bound t name (render d bound ps ++ " AS ".toList ++ Dialect.quote name.toList)
  | bare (binding name : String) :
      Shows d s bound (.field binding name) name
        (Dialect.quote binding.toList ++ ".".toList ++ Dialect.quote name.toList)

/-- Each of some terms is put out as the column in its place. -/
inductive ShowsAll (d : Dialect) (s : Scope) :
    Nat → List Term → List String → List (List Char) → Prop
  | nil (bound : Nat) : ShowsAll d s bound [] [] []
  | cons {bound : Nat} {t : Term} {ts : List Term} {name : String} {names : List String}
      {text : List Char} {texts : List (List Char)} (h : Shows d s bound t name text)
      (hrest : ShowsAll d s (bound + t.bound.length) ts names texts) :
      ShowsAll d s bound (t :: ts) (name :: names) (text :: texts)

theorem ShowsAll.length_eq {names : List String} {texts : List (List Char)}
    (h : ShowsAll d s bound ts names texts) : names.length = ts.length := by
  induction h with
  | nil => rfl
  | cons _ _ ih => exact congrArg (· + 1) ih

/-- A column whose name is not said is that of a field of the name. -/
theorem eq_field_of_nameOf {name : String} (h : nameOf used position t = (name, false)) :
    ∃ binding, t = .field binding name := by
  unfold nameOf at h
  split at h
  · cases h
  · split at h
    · cases h
    · cases h
      exact ⟨_, rfl⟩
  · cases h

theorem parameters_ofTerm (h : ofTerm d s used position t = .ok c) :
    parameters c.pieces = t.bound := by
  obtain ⟨hps, -, -⟩ := ofTerm_eq_ok_iff.mp h
  rw [← t.bound_termOf, ← Term.parameters_pieces hps, pieces]
  split
  · simp [parameters]
  · rfl

theorem shows_field (d : Dialect) (s : Scope) (bound : Nat) (binding name : String) :
    Shows d s bound (.field binding name) name
      (render d bound [.name binding, .word ".", .name name]) := by
  have hshows : Shows d s bound (.field binding name) name _ := .bare binding name
  simpa [render] using hshows

theorem shows_ofTerm (h : ofTerm d s used position t = .ok c) (bound : Nat) :
    Shows d s bound t c.name (render d bound c.pieces) := by
  obtain ⟨term, name, isNamed⟩ := c
  obtain ⟨hps, hname, -⟩ := ofTerm_eq_ok_iff.mp h
  cases isNamed with
  | true =>
      have hshows : Shows d s bound t name _ := .named name hps
      simpa [pieces, render_append, render] using hshows
  | false =>
      obtain ⟨binding, rfl⟩ := eq_field_of_nameOf hname
      have hterm : term = [.name binding, .word ".", .name name] := Scope.fieldPieces_eq hps
      rw [hterm]
      exact shows_field d s bound binding name

theorem name_ofTerms (h : ofTerms d s used position ts = .ok cs) :
    cs.map Column.name = names used position ts := by
  induction ts generalizing used position cs with
  | nil =>
      cases h
      rfl
  | cons t ts ih =>
      simp only [ofTerms, bind_eq_ok_iff, pure_eq_ok_iff] at h
      obtain ⟨c, hc, rest, hrest, rfl⟩ := h
      have hname := name_ofTerm hc
      rw [hname] at hrest
      rw [List.map_cons, names, ih hrest, hname]

theorem nodup_ofTerms (h : ofTerms d s used position ts = .ok cs) :
    (cs.map Column.name).Nodup := by
  rw [name_ofTerms h]
  exact (succeeds_ofTerms_iff.mp ⟨cs, h⟩).2.2

theorem showsAll_ofTerms (h : ofTerms d s used position ts = .ok cs) (bound : Nat) :
    ShowsAll d s bound ts (cs.map Column.name) (renderEach d bound (cs.map Column.pieces)) := by
  induction ts generalizing used position bound cs with
  | nil =>
      cases h
      exact .nil bound
  | cons t ts ih =>
      simp only [ofTerms, bind_eq_ok_iff, pure_eq_ok_iff] at h
      obtain ⟨c, hc, rest, hrest, rfl⟩ := h
      rw [List.map_cons, List.map_cons, renderEach, parameters_ofTerm hc]
      exact .cons (shows_ofTerm hc bound) (ih hrest _)

/-- The fields of a record are put out under their names. -/
theorem showsAll_fields (d : Dialect) (s : Scope) (binding : String) (ns : List String) :
    ShowsAll d s 0 (ns.map (.field binding)) ns
      (renderEach d 0 (ns.map fun n => [.name binding, .word ".", .name n])) := by
  induction ns with
  | nil => exact .nil 0
  | cons n ns ih => exact .cons (shows_field d s 0 binding n) ih

end Column

/-! ## What a statement puts out -/

/-- Terms are put out under names that are all different, with commas between them. -/
structure Projection.Shows (d : Dialect) (s : Scope) (out : Projection) (ts : List Term) :
    Prop where
  nodup : out.columns.Nodup
  texts : ∃ texts, Column.ShowsAll d s 0 ts out.columns texts ∧
    Piece.render d 0 out.pieces = ", ".toList.intercalate texts

namespace Plan

open Piece

variable {d : Dialect} {p : Plan} {out : Projection}

/-- The columns of a record are the stored fields of its schema. -/
theorem shows_record (d : Dialect) (s : Scope) {b : Bound} {schema : Descriptor}
    (h : b.schema = some schema) :
    (record b).Shows d s (schema.stored.map fun f => .field b.name f.name) := by
  have hrecord : record b = ⟨separated ", " ((schema.stored.map Field.name).map fun n =>
      [.name b.name, .word ".", .name n]), schema.stored.map Field.name, some schema.name⟩ := by
    rw [record, h]
  rw [hrecord]
  constructor
  · exact schema.names_nodup.sublist (List.filter_sublist.map _)
  · refine ⟨_, ?_, render_separated 0 ", " _⟩
    simpa [Function.comp_def] using
      Column.showsAll_fields d s b.name (schema.stored.map Field.name)

/-- The columns of a selection are its terms, and its rows are no records. -/
theorem shows_projected {ts : List Term} (h : p.projected d = .ok out)
    (hselect : p.projection = some ts) :
    out.Shows d ⟨p.bindings, .select⟩ ts ∧ out.source = none := by
  unfold projected at h
  rw [hselect] at h
  cases ts with
  | nil => cases h
  | cons t ts =>
      simp only [bind_eq_ok_iff, pure_eq_ok_iff] at h
      obtain ⟨cs, hcs, rfl⟩ := h
      exact ⟨⟨Column.nodup_ofTerms hcs, _, Column.showsAll_ofTerms hcs 0,
        render_separated 0 ", " _⟩, rfl⟩

/-- A statement puts out what it puts out between its first word and the source. -/
theorem render_selectPieces {ps : List Piece} (h : p.selectPieces d out = .ok ps) :
    ∃ rest, render d 0 ps = (if p.distinct then "SELECT DISTINCT " else "SELECT ").toList ++
      render d 0 out.pieces ++ " FROM ".toList ++ rest := by
  simp only [selectPieces, bind_eq_ok_iff, pure_eq_ok_iff] at h
  obtain ⟨joins, -, condition, -, groups, -, having', -, order, -, fragments, -, rfl⟩ := h
  simp only [List.cons_append, List.append_assoc, render, render_append]
  exact ⟨_, rfl⟩

end Plan

namespace Query

variable {registry : Option Registry} {d : Dialect}

/-- The registered schema of the source, if it has one. -/
def schema? (registry : Option Registry) (q : Query) : Option Descriptor :=
  match q.root with
  | .source name _ => Plan.resolve? registry name
  | _ => none

/-- The terms that are put out: those of the last selection, and otherwise the stored fields of the
schema of the source. -/
def output (registry : Option Registry) (q : Query) : List Term :=
  match q.lastSelect, q.root with
  | some ts, _ => ts
  | none, .source name binding =>
    match Plan.resolve? registry name with
    | some schema => schema.stored.map fun f => .field binding f.name
    | none => []
  | none, _ => []

/-- What is put out for a query that selects something or has a known schema: its terms under
different names. The rows are records where nothing is selected. -/
theorem shows_projected {q : Query} {name binding : String} {js : List PlannedJoin}
    {out : Projection} (hroot : q.root = .source name binding)
    (hout : (Plan.ofJoins (Plan.bind registry binding name) q js).projected d = .ok out)
    (hknown : q.lastSelect.isSome ∨ (q.schema? registry).isSome) :
    (∃ scope, out.Shows d scope (q.output registry)) ∧
      (∀ n, out.source = some n ↔
        q.lastSelect = none ∧ ∃ schema, q.schema? registry = some schema ∧ schema.name = n) ∧
      ∀ schema, q.lastSelect = none → q.schema? registry = some schema →
        out.columns = schema.stored.map Field.name := by
  have hresolved : q.schema? registry = Plan.resolve? registry name := by rw [schema?, hroot]
  cases hselect : q.lastSelect with
  | some ts =>
      obtain ⟨hshows, hsource⟩ := Plan.shows_projected hout (by simpa using hselect)
      have houtput : q.output registry = ts := by rw [output, hselect]
      refine ⟨⟨_, houtput ▸ hshows⟩, fun n => ?_, nofun⟩
      simp [hsource]
  | none =>
      have hresolves := hknown.resolve_left (by simp [hselect])
      obtain ⟨schema, hschema⟩ := Option.isSome_iff_exists.mp hresolves
      rw [hresolved] at hschema
      have hprojection :
          (Plan.ofJoins (Plan.bind registry binding name) q js).projection = none := by
        simpa using hselect
      have hrecord : Plan.record (Plan.bind registry binding name) = out := by
        unfold Plan.projected at hout
        rw [hprojection] at hout
        exact Except.ok.inj hout
      have houtput : q.output registry = schema.stored.map fun f => .field binding f.name := by
        rw [output, hselect, hroot]
        simp only [hschema]
      have hbound : (Plan.bind registry binding name).schema = some schema := hschema
      have hshows := Plan.shows_record d ⟨[], .select⟩ hbound
      have hcolumns : out.columns = schema.stored.map Field.name := by
        rw [← hrecord, Plan.record, hbound]
      have hsource : out.source = some schema.name := by rw [← hrecord, Plan.record, hbound]
      rw [hrecord] at hshows
      refine ⟨⟨_, houtput ▸ hshows⟩, fun n => ?_, fun other _ hother => ?_⟩
      · simp [hsource, hresolved, hschema]
      · obtain rfl := Option.some.inj (hschema.symm.trans (hresolved.symm.trans hother))
        exact hcolumns

/-- The columns of a statement that selects something or reads a known schema have different names,
one for each term that is put out: it is said after the term, or the term is a field of that name.
So every row of an answer is kept as a whole. The rows are records just where nothing is selected
from a registered schema, and then the columns are its stored fields. -/
theorem columns_compile {q : Query} {s : Statement} (h : q.compile registry d = .ok s)
    (hknown : q.lastSelect.isSome ∨ (q.schema? registry).isSome) :
    s.columns.Nodup ∧ s.columns.length = (q.output registry).length ∧
      (∃ scope texts rest, Column.ShowsAll d scope 0 (q.output registry) s.columns texts ∧
        s.text.toList = (if q.isDistinct then "SELECT DISTINCT " else "SELECT ").toList ++
          ", ".toList.intercalate texts ++ " FROM ".toList ++ rest) ∧
      (∀ n, s.source = some n ↔
        q.lastSelect = none ∧ ∃ schema, q.schema? registry = some schema ∧ schema.name = n) ∧
      (∀ schema, q.lastSelect = none → q.schema? registry = some schema →
        s.columns = schema.stored.map Field.name) ∧
      ∀ rows : List (List Value), (∀ row ∈ rows, row.length = s.columns.length) →
        Sqlite.rowsOf ⟨some s.columns, rows⟩ = rows.map s.columns.zip := by
  simp only [compile, Plan.select, bind_eq_ok_iff, pure_eq_ok_iff] at h
  obtain ⟨p, hp, out, hout, ps, hps, rfl⟩ := h
  obtain ⟨name, binding, js, hroot, -, -, rfl⟩ := Plan.ofQuery_eq_ok_iff.mp hp
  obtain ⟨⟨scope, hshows⟩, hsource, hcolumns⟩ := shows_projected hroot hout hknown
  obtain ⟨texts, hall, htexts⟩ := hshows.texts
  obtain ⟨rest, hrest⟩ := Plan.render_selectPieces hps
  refine ⟨hshows.nodup, hall.length_eq, ⟨scope, texts, rest, hall, ?_⟩, hsource, hcolumns,
    fun rows => Sqlite.rowsOf_of_nodup hshows.nodup⟩
  rw [Statement.ofPieces, String.toList_ofList, hrest, htexts]
  rfl

/-- Two keys, a number of keys and a value: the second key is named after its binding. -/
theorem columns_compile_keys :
    let q : Query := ⟨.source "posts" "p",
      [.join (.relation "users") "u" (some (.binary .eq (.field "u" "id") (.field "p" "user_id")))
        .inner,
        .select [.field "u" "id", .field "p" "id",
          .aggregate .count (some (.field "p" "id")) false, .literal (.int 1)]]⟩
    ∃ s, q.compile none .sqlite = .ok s ∧ s.columns = ["id", "p_id", "count_id", "column_4"] ∧
      s.source = none ∧ s.columns.Nodup ∧
      Sqlite.rowsOf ⟨some s.columns, [[.int 1, .int 2, .int 3, .int 1]]⟩ =
        [[("id", .int 1), ("p_id", .int 2), ("count_id", .int 3), ("column_4", .int 1)]] := by
  intro q
  have hcompile : ∃ s, q.compile none .sqlite = .ok s ∧
      s.columns = ["id", "p_id", "count_id", "column_4"] := ⟨_, by cbv, rfl⟩
  obtain ⟨s, hs, hcolumns⟩ := hcompile
  obtain ⟨hnodup, -, -, hsource, -, hrows⟩ := columns_compile hs (.inl rfl)
  refine ⟨s, hs, hcolumns, ?_, hnodup, ?_⟩
  · refine Option.eq_none_iff_forall_ne_some.mpr fun n hn => ?_
    cases ((hsource n).mp hn).1
  · rw [hrows _ (by simp [hcolumns]), hcolumns]
    rfl

end Query

end RecordMapper
