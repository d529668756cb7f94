import RecordMapper.Proofs.Sql.Request
import RecordMapper.Proofs.Sql.Selected
import RecordMapper.Proofs.Sql.Sentence

/-! # Statements in the grammar of SQLite

The statement of a query without fragments is read as the clauses of a sentence. It is one unless it
passes over rows without a limit or has no column to put out. -/

namespace RecordMapper

open Outcome SelectGrammar
open Atom (Reads Follows Spells SpellsApart name word number sign)

/-! ## Lists -/

/-- Pieces are read as one of the rows of atoms that a rule is about. -/
def ReadAs (item : List Atom → Prop) (ps : List Piece) : Prop := ∃ as, item as ∧ Reads ps as

/-- Rows of pieces that each have a row of atoms have all of them. -/
theorem exists_rows {R : List Piece → List Atom → Prop} {item : List Atom → Prop}
    {pss : List (List Piece)} (h : ∀ ps ∈ pss, ∃ as, item as ∧ R ps as) :
    ∃ ass, (∀ as ∈ ass, item as) ∧ List.Forall₂ R pss ass := by
  induction pss with
  | nil => exact ⟨[], by simp, .nil⟩
  | cons ps pss ih =>
      obtain ⟨⟨as, has, hR⟩, hrest⟩ := List.forall_mem_cons.mp h
      obtain ⟨ass, hass, hall⟩ := ih hrest
      exact ⟨as :: ass, List.forall_mem_cons.mpr ⟨has, hass⟩, .cons hR hall⟩

theorem reads_separated {separator : String} {a : Atom} (hw : SpellsApart separator [a])
    {pss : List (List Piece)} {ass : List (List Atom)} (h : List.Forall₂ Reads pss ass) :
    Reads (Piece.separated separator pss) (separated a ass) := by
  induction h with
  | nil => exact .nil
  | @cons ps as pss ass hps hpss ih =>
      cases hpss with
      | nil => exact hps
      | cons hqs hqss => exact hps.joined hw ih

/-- At least one row of pieces with a word between them. -/
theorem exists_separated {item : List Atom → Prop} {pss : List (List Piece)} (hne : pss ≠ [])
    (h : ∀ ps ∈ pss, ReadAs item ps) {separator : String} {a : Atom}
    (hw : SpellsApart separator [a]) :
    ∃ ass, ass ≠ [] ∧ (∀ as ∈ ass, item as) ∧
      Reads (Piece.separated separator pss) (separated a ass) := by
  obtain ⟨ass, hass, hreads⟩ := exists_rows h
  refine ⟨ass, ?_, hass, reads_separated hw hreads⟩
  rintro rfl
  cases hreads
  exact hne rfl

theorem spells_comma : SpellsApart ", " [sign ","] := by decide

theorem readAs_listed {item : List Atom → Prop} {pss : List (List Piece)} (hne : pss ≠ [])
    (h : ∀ ps ∈ pss, ReadAs item ps) : ReadAs (Listed item) (Piece.separated ", " pss) := by
  obtain ⟨ass, hassne, hass, hreads⟩ := exists_separated hne h spells_comma
  exact ⟨_, .items hassne hass, hreads⟩

theorem spells_open : Spells "(" [sign "("] := by decide

theorem spells_close : SpellsApart ")" [sign ")"] := by decide

theorem reads_enclosed {ps : List Piece} {as : List Atom} (h : Reads ps as) :
    Reads (.word "(" :: ps ++ [.word ")"]) (enclosed as) :=
  h.between spells_open spells_close

/-! ## Terms -/

namespace Term

/-- The node is no fragment, and it joins something if it joins. -/
def FormedAt : Term → Prop
  | .connected _ ts => ts ≠ []
  | .fragment .. => False
  | _ => True

/-- A term has no fragments, and something is joined wherever it joins. -/
def Formed (t : Term) : Prop := ∀ u ∈ t.nodes, u.FormedAt

/-- Joining formed terms makes a formed term. -/
theorem formed_connect {op : Connective} {ts : List Term} {t : Term} (h : connect op ts = .ok t)
    (hts : ∀ u ∈ ts, u.toTerm.Formed) : t.Formed := by
  refine forall_nodes_connect (fun op us hlength => ?_) h hts
  rintro rfl
  simp at hlength

theorem formed_connected (op : Connective) {t u : Term} (ht : t.Formed) (hu : u.Formed) :
    (connected op [t, u]).Formed := by
  simp only [Formed, nodes, allNodes, List.append_nil, List.forall_mem_cons,
    List.forall_mem_append]
  exact ⟨List.cons_ne_nil _ _, ht, hu⟩

/-- The words of an operator of SQLite: an operator between the operands, or the comparison of both
in small letters. -/
theorem operatorWords_sqlite {op : Operator} (h : ∀ name, op ≠ .other name) :
    operatorWords .sqlite op = ("(LOWER(", ") LIKE LOWER(", "))") ∨
      ∃ a ∈ operators, ∃ between, operatorWords .sqlite op = ("(", between, ")") ∧
        SpellsApart between [a] := by
  cases op with
  | other name => exact absurd rfl (h name)
  | ilike => exact .inl rfl
  | like => exact .inr ⟨word "LIKE", by decide, " LIKE ", by decide +kernel, by decide⟩
  | eq => exact .inr ⟨sign "=", by decide, " = ", by decide +kernel, by decide⟩
  | ne => exact .inr ⟨sign "<>", by decide, " <> ", by decide +kernel, by decide⟩
  | lt => exact .inr ⟨sign "<", by decide, " < ", by decide +kernel, by decide⟩
  | le => exact .inr ⟨sign "<=", by decide, " <= ", by decide +kernel, by decide⟩
  | gt => exact .inr ⟨sign ">", by decide, " > ", by decide +kernel, by decide⟩
  | ge => exact .inr ⟨sign ">=", by decide, " >= ", by decide +kernel, by decide⟩
  | add => exact .inr ⟨sign "+", by decide, " + ", by decide +kernel, by decide⟩
  | sub => exact .inr ⟨sign "-", by decide, " - ", by decide +kernel, by decide⟩
  | mul => exact .inr ⟨sign "*", by decide, " * ", by decide +kernel, by decide⟩
  | div => exact .inr ⟨sign "/", by decide, " / ", by decide +kernel, by decide⟩

theorem readAs_binary {op : Operator} (hop : ∀ name, op ≠ .other name) {ls rs : List Piece}
    (hl : ReadAs Expression ls) (hr : ReadAs Expression rs) :
    ReadAs Expression (binaryPieces .sqlite op ls rs) := by
  obtain ⟨las, hlas, hl⟩ := hl
  obtain ⟨ras, hras, hr⟩ := hr
  rcases operatorWords_sqlite hop with hwords | ⟨a, ha, between, hwords, hbetween⟩
  · have hlower : "LOWER" ∈ functions := by decide
    have hlike : word "LIKE" ∈ operators := by decide
    have hopen : Spells "(LOWER(" [sign "(", word "LOWER", sign "("] := by decide
    have hmiddle : SpellsApart ") LIKE LOWER(" [sign ")", word "LIKE", word "LOWER", sign "("] := by
      decide
    have hclose : SpellsApart "))" [sign ")", sign ")"] := by decide
    refine ⟨_, .binary hlike (.call hlower hlas) (.call hlower hras), ?_⟩
    rw [binaryPieces, hwords]
    simpa [enclosed] using (hl.joined hmiddle hr).between hopen hclose
  · refine ⟨_, .binary ha hlas hras, ?_⟩
    rw [binaryPieces, hwords]
    exact reads_enclosed (hl.joined hbetween hr)

theorem readAs_field (b n : String) : ReadAs Expression [.name b, .word ".", .name n] := by
  have hpoint : SpellsApart "." [sign "."] := by decide
  exact ⟨_, .column b n, (Reads.name b).joined hpoint (.name n)⟩

theorem readAs_connected {op : Connective} {w : String} (hw : connectiveWord op = .ok w)
    {pss : List (List Piece)} (hne : pss ≠ []) (h : ∀ ps ∈ pss, ReadAs Expression ps) :
    ReadAs Expression (.word "(" :: Piece.separated w pss ++ [.word ")"]) := by
  obtain ⟨v, hv, hspells⟩ : ∃ v ∈ ["AND", "OR"], SpellsApart w [word v] := by
    cases op with
    | and =>
        obtain rfl := Except.ok.inj hw
        exact ⟨"AND", by decide, by decide⟩
    | or =>
        obtain rfl := Except.ok.inj hw
        exact ⟨"OR", by decide, by decide⟩
    | other name => cases hw
  obtain ⟨ass, hassne, hass, hreads⟩ := exists_separated hne h hspells
  exact ⟨_, .connected hv hassne hass, reads_enclosed hreads⟩

theorem readAs_not {ps : List Piece} (h : ReadAs Expression ps) :
    ReadAs Expression (.word "(NOT " :: ps ++ [.word ")"]) := by
  obtain ⟨as, has, hreads⟩ := h
  have hopen : Spells "(NOT " [sign "(", word "NOT"] := by decide
  exact ⟨_, .not has, hreads.between hopen spells_close⟩

theorem readAs_isNull {ps : List Piece} (negated : Bool) (h : ReadAs Expression ps) :
    ReadAs Expression
      (.word "(" :: ps ++ [.word (if negated then " IS NOT NULL)" else " IS NULL)")]) := by
  obtain ⟨as, has, hreads⟩ := h
  cases negated with
  | true =>
      have hclose : SpellsApart " IS NOT NULL)"
          [word "IS", word "NOT", word "NULL", sign ")"] := by decide
      refine ⟨_, .isNotNull has, ?_⟩
      simpa [enclosed] using hreads.between spells_open hclose
  | false =>
      have hclose : SpellsApart " IS NULL)" [word "IS", word "NULL", sign ")"] := by decide
      refine ⟨_, .isNull has, ?_⟩
      simpa [enclosed] using hreads.between spells_open hclose

/-- A list without values makes a condition that always or never holds. -/
theorem readAs_inNone (ps : List Piece) (negated : Bool) :
    ReadAs Expression (emptyListPieces ps negated) := by
  cases negated with
  | true =>
      have hword : Spells "(1 = 1)" (enclosed [number "1", sign "=", number "1"]) := by decide
      exact ⟨_, .constant (by decide), .withoutPlaces ps (.singleWord hword)⟩
  | false =>
      have hword : Spells "(1 = 0)" (enclosed [number "1", sign "=", number "0"]) := by decide
      exact ⟨_, .constant (by decide), .withoutPlaces ps (.singleWord hword)⟩

theorem readAs_inList {ps : List Piece} {pss : List (List Piece)} (negated : Bool)
    (h : ReadAs Expression ps) (hne : pss ≠ []) (hvs : ∀ qs ∈ pss, ReadAs Expression qs) :
    ReadAs Expression (.word "(" :: ps ++ .word (if negated then " NOT IN (" else " IN (") ::
      Piece.separated ", " pss ++ [.word "))"]) := by
  obtain ⟨as, has, hps⟩ := h
  obtain ⟨ass, hassne, hass, hlist⟩ := exists_separated hne hvs spells_comma
  have hclose : SpellsApart "))" [sign ")", sign ")"] := by decide
  cases negated with
  | true =>
      have hin : SpellsApart " NOT IN (" [word "NOT", word "IN", sign "("] := by decide
      refine ⟨_, .notInList has hassne hass, ?_⟩
      simpa [enclosed] using (hps.joined hin hlist).between spells_open hclose
  | false =>
      have hin : SpellsApart " IN (" [word "IN", sign "("] := by decide
      refine ⟨_, .inList has hassne hass, ?_⟩
      simpa [enclosed] using (hps.joined hin hlist).between spells_open hclose

/-- The word of a function of groups goes on until its parenthesis. -/
theorem mem_functions {s : Scope} {inAggregate : Bool} {f : AggregateFunction}
    (h : checkAggregate s inAggregate f = .ok ()) :
    f.word.toUpper ∈ functions ∧ Reads [.word f.word.toUpper] [word f.word.toUpper] := by
  have hmem : f.word.toUpper ∈ functions := by
    cases f with
    | other name => simp [checkAggregate] at h
    | _ => decide +kernel
  have hopen : ∀ w ∈ functions, Atom.Begun.none.run w.toList = some ([], .word w.toList) := by
    decide
  exact ⟨hmem, .openWord (hopen _ hmem)⟩

theorem readAs_aggregate {s : Scope} {inAggregate : Bool} {f : AggregateFunction}
    (hf : checkAggregate s inAggregate f = .ok ()) {ps : List Piece} (distinct : Bool)
    (h : ReadAs Expression ps) :
    ReadAs Expression (.word f.word.toUpper :: .word (if distinct then "(DISTINCT " else "(") ::
      ps ++ [.word ")"]) := by
  obtain ⟨as, has, hreads⟩ := h
  obtain ⟨hmem, hword⟩ := mem_functions hf
  cases distinct with
  | true =>
      have hopen : Spells "(DISTINCT " [sign "(", word "DISTINCT"] := by decide
      exact ⟨_, .callDistinct hmem has, hword.append ⟨hreads.between hopen spells_close, rfl⟩⟩
  | false => exact ⟨_, .call hmem has, hword.append ⟨reads_enclosed hreads, rfl⟩⟩

theorem compositional_readAs (s : Scope) :
    Compositional .sqlite s (fun t ps => t.Formed → ReadAs Expression ps) where
  field b n _ := readAs_field b n
  bound p _ := ⟨_, .placeholder, .slot p⟩
  binary hop hl hr h := by
    obtain ⟨hwl, hwr⟩ := List.forall_mem_append.mp (List.forall_mem_cons.mp h).2
    exact readAs_binary (ne_other_of_checkOperator hop) (hl hwl) (hr hwr)
  connected hw hts h := by
    obtain ⟨hne, hnodes⟩ := List.forall_mem_cons.mp h
    refine readAs_connected hw ?_ (forall_pieces_of_allNodes hts hnodes)
    rintro rfl
    cases hts
    exact hne rfl
  not ht h := readAs_not (ht (List.forall_mem_cons.mp h).2)
  isNull negated ht h := readAs_isNull negated (ht (List.forall_mem_cons.mp h).2)
  inNone {_ _ ps} negated _ _ _ := readAs_inNone ps negated
  inList negated ht hvs h := by
    obtain ⟨hwt, hwvs⟩ := List.forall_mem_append.mp (List.forall_mem_cons.mp h).2
    refine readAs_inList negated (ht hwt) ?_ (forall_pieces_of_allNodes hvs hwvs)
    rintro rfl
    cases hvs
  rows _ _ := by
    have hword : Spells "COUNT(*)" (word "COUNT" :: enclosed [sign "*"]) := by decide
    exact ⟨_, .rows, .singleWord hword⟩
  aggregate distinct hf ht h := readAs_aggregate hf distinct (ht (List.forall_mem_cons.mp h).2)
  fragment _ _ _ h := (h _ List.mem_cons_self).elim

/-- The pieces of a formed term are read as an expression. -/
theorem readAs_pieces {s : Scope} {inAggregate : Bool} {t : Term} {ps : List Piece}
    (h : t.pieces .sqlite s inAggregate = .ok ps) (ht : t.Formed) : ReadAs Expression ps :=
  (compositional_readAs s).of_pieces h ht

theorem readAs_piecesOfAll {s : Scope} {inAggregate : Bool} {ts : List Term}
    {pss : List (List Piece)} (h : piecesOfAll .sqlite s inAggregate ts = .ok pss)
    (ht : ∀ t ∈ ts, t.Formed) : ∀ ps ∈ pss, ReadAs Expression ps :=
  forall_pieces_of_allNodes ((compositional_readAs s).of_piecesOfAll h) (forall_allNodes ht)

end Term

/-! ## Clauses -/

/-- Pieces are read as a clause that may be missing, behind whatever stands before them. -/
def ReadAsClause (keyword : List Atom) (body : List Atom → Prop) (ps : List Piece) : Prop :=
  ∃ as, SelectGrammar.Clause keyword body as ∧ Follows ps as

namespace Plan

theorem readAsClause_conditionPieces {s : Scope} {keyword : String} {atoms : List Atom}
    (hk : SpellsApart keyword atoms) {condition : Option Term} (ht : ∀ t ∈ condition, t.Formed)
    {ps : List Piece} (h : conditionPieces .sqlite s keyword condition = .ok ps) :
    ReadAsClause atoms Expression ps := by
  cases condition with
  | none =>
      obtain rfl : [] = ps := by simpa [conditionPieces] using h
      exact ⟨[], .missing, .nil⟩
  | some t =>
      simp only [conditionPieces, bind_eq_ok_iff, pure_eq_ok_iff] at h
      obtain ⟨qs, hqs, rfl⟩ := h
      obtain ⟨as, has, hreads⟩ := Term.readAs_pieces hqs (ht t rfl)
      exact ⟨_, .present has, .word hk hreads⟩

/-- The conditions that filters are joined to. -/
theorem readAsClause_filters {s : Scope} {keyword : String} {atoms : List Atom}
    (hk : SpellsApart keyword atoms) {filters : List (Connective × Term)}
    (hf : ∀ f ∈ filters, f.2.Formed) {ps : List Piece}
    (h : conditionPieces .sqlite s keyword (combineAll none filters) = .ok ps) :
    ReadAsClause atoms Expression ps := by
  have hnone : ∀ t ∈ (none : Option Term), t.Formed := by simp
  exact readAsClause_conditionPieces hk
    (forall_combineAll (fun op _ _ => Term.formed_connected op) hnone hf) h

theorem readAsClause_clausePieces {item : List Atom → Prop} {keyword : String} {atoms : List Atom}
    (hk : SpellsApart keyword atoms) {pss : List (List Piece)} (h : ∀ ps ∈ pss, ReadAs item ps) :
    ReadAsClause atoms (Listed item) (clausePieces keyword ", " pss) := by
  unfold clausePieces
  split
  · exact ⟨[], .missing, .nil⟩
  · rename_i hempty
    have hne : pss ≠ [] := fun hnil => hempty (List.isEmpty_iff.mpr hnil)
    obtain ⟨as, has, hreads⟩ := readAs_listed hne h
    exact ⟨_, .present has, .word hk hreads⟩

theorem readAsClause_groupPieces {p : Plan} (ht : ∀ t ∈ p.groupBy, t.Formed) {ps : List Piece}
    (h : p.groupPieces .sqlite = .ok ps) :
    ReadAsClause [word "GROUP", word "BY"] (Listed Expression) ps := by
  simp only [groupPieces, bind_eq_ok_iff, pure_eq_ok_iff] at h
  obtain ⟨pss, hpss, rfl⟩ := h
  exact readAsClause_clausePieces (by decide) (Term.readAs_piecesOfAll hpss ht)

theorem readAsClause_orderPieces {p : Plan} (ht : ∀ x ∈ p.orderBy, x.1.Formed) {ps : List Piece}
    (h : p.orderPieces .sqlite = .ok ps) :
    ReadAsClause [word "ORDER", word "BY"] (Listed OrderingTerm) ps := by
  simp only [orderPieces, bind_eq_ok_iff, pure_eq_ok_iff] at h
  obtain ⟨pss, hpss, rfl⟩ := h
  have hall := Term.readAs_piecesOfAll hpss (List.forall_mem_map.mpr ht)
  refine readAsClause_clausePieces (by decide) (List.forall_mem_map.mpr fun x hx => ?_)
  obtain ⟨as, has, hreads⟩ := hall x.1 (List.of_mem_zip hx).1
  obtain ⟨w, hw, hword⟩ : ∃ w ∈ ["ASC", "DESC"], Follows [.word (directionWord x.2)] [word w] := by
    cases x.2 with
    | asc => exact ⟨"ASC", by decide, .openWord (by decide), rfl⟩
    | desc => exact ⟨"DESC", by decide, .openWord (by decide), rfl⟩
  exact ⟨_, .term hw has, hreads.append hword⟩

/-- A number of rows as atoms. -/
def countAtoms (keyword : Atom) (count : Option Int) : List Atom :=
  if count.isSome then [keyword, sign "?"] else []

theorem follows_countPieces {keyword : String} {a : Atom} (hk : SpellsApart keyword [a])
    (count : Option Int) : Follows (countPieces keyword count) (countAtoms a count) := by
  cases count with
  | none => exact .nil
  | some n => exact .word hk (.slot _)

theorem reads_aliased (relation binding : String) :
    Reads (Piece.aliased relation binding) (aliased relation binding) := by
  have has : SpellsApart " AS " [word "AS"] := by decide
  exact (Reads.name relation).joined has (.name binding)

theorem exists_follows_joinPieces {j : PlannedJoin} (ht : j.condition.Formed) {ps : List Piece}
    (h : joinPieces .sqlite j = .ok ps) : ∃ as, Join as ∧ Follows ps as := by
  simp only [joinPieces, bind_eq_ok_iff, pure_eq_ok_iff] at h
  obtain ⟨qs, hqs, rfl⟩ := h
  obtain ⟨as, has, hreads⟩ := Term.readAs_pieces hqs ht
  obtain ⟨w, hw, hspells⟩ : ∃ w ∈ ["INNER", "LEFT"],
      SpellsApart (joinWord j.kind) [word w, word "JOIN"] := by
    cases j.kind with
    | inner => exact ⟨"INNER", by decide, by decide⟩
    | left => exact ⟨"LEFT", by decide, by decide⟩
  have hon : SpellsApart " ON " [word "ON"] := by decide
  have hjoin := Follows.word hspells
    ((reads_aliased j.joined.relation j.joined.name).joined hon hreads)
  exact ⟨_, .on j.joined.relation j.joined.name hw has, by simpa using hjoin⟩

end Plan

/-! ## What is put out -/

theorem Column.readAs_ofTerms {s : Scope} {used : List String} {position : Nat} {ts : List Term}
    {columns : List Column} (h : ofTerms .sqlite s used position ts = .ok columns)
    (ht : ∀ t ∈ ts, (termOf t).Formed) : ∀ c ∈ columns, ReadAs ResultColumn c.pieces := by
  intro c hc
  obtain ⟨t, htmem, hps⟩ := exists_term_of_mem_ofTerms h hc
  obtain ⟨as, has, hreads⟩ := Term.readAs_pieces hps (ht t htmem)
  unfold pieces
  split
  · have hword : SpellsApart " AS " [word "AS"] := by decide
    exact ⟨_, .named c.name has, hreads.joined hword (.name c.name)⟩
  · exact ⟨as, .expression has, hreads⟩

namespace Plan

/-- A schema without stored fields has no columns. -/
theorem readAs_record {b : Bound} (h : ∀ schema, b.schema = some schema → schema.stored ≠ []) :
    ReadAs (Listed ResultColumn) (record b).pieces := by
  unfold record
  split
  · have hstar : SpellsApart ".*" [sign ".", sign "*"] := by decide
    have hall : ReadAs ResultColumn [.name b.name, .word ".*"] :=
      ⟨_, .all b.name, (Reads.name b.name).append (.word hstar .nil)⟩
    exact readAs_listed (List.cons_ne_nil _ []) (by simpa using hall)
  · rename_i schema hschema
    refine readAs_listed (by simpa using h schema hschema) ?_
    refine List.forall_mem_map.mpr fun n _ => ?_
    obtain ⟨as, has, hreads⟩ := Term.readAs_field b.name n
    exact ⟨as, .expression has, hreads⟩

/-- What is put out is read as columns, unless it is the record of a schema without stored
fields. -/
theorem readAs_projected {p : Plan} {out : Projection} (h : p.projected .sqlite = .ok out)
    (ht : ∀ ts ∈ p.projection, ∀ t ∈ ts, (Column.termOf t).Formed)
    (hsource : p.projection = none → ∀ schema, p.source.schema = some schema → schema.stored ≠ []) :
    ReadAs (Listed ResultColumn) out.pieces := by
  unfold projected at h
  split at h
  · rename_i hnone
    obtain rfl := by simpa using h
    exact readAs_record (hsource hnone)
  · simp at h
  · rename_i t ts hsome
    simp only [bind_eq_ok_iff, pure_eq_ok_iff] at h
    obtain ⟨columns, hcolumns, rfl⟩ := h
    refine readAs_listed ?_ (List.forall_mem_map.mpr (Column.readAs_ofTerms hcolumns (ht _ hsome)))
    simp only [Column.ofTerms, bind_eq_ok_iff, pure_eq_ok_iff] at hcolumns
    obtain ⟨c, -, rest, -, rfl⟩ := hcolumns
    exact List.cons_ne_nil _ _

/-- The record of a schema without stored fields puts nothing out. -/
theorem pieces_projected_eq_nil {d : Dialect} {p : Plan} {out : Projection}
    (h : p.projected d = .ok out) (hnone : p.projection = none) {schema : Descriptor}
    (hschema : p.source.schema = some schema) (hstored : schema.stored = []) : out.pieces = [] := by
  unfold projected at h
  rw [hnone] at h
  obtain rfl : record p.source = out := Except.ok.inj h
  simp [record, hschema, hstored, Piece.separated]

/-! ## Selections -/

/-- A selection is read as an opening, what its columns are read as, the clauses up to its order and
the numbers of rows. -/
theorem exists_reads_selectPieces {source : Bound} {q : Query} {js : List PlannedJoin}
    (hjs : ∀ j ∈ js, j.condition.Formed) (hterms : ∀ t ∈ Request.select.terms q, t.Formed)
    {out : Projection} {columns : List Atom} (hcolumns : Reads out.pieces columns)
    {ps : List Piece} (h : (ofJoins source q js).selectPieces .sqlite out = .ok ps) :
    ∃ opening ∈ openings, ∃ rest, Remainder rest ∧
      Reads ps (opening ++ (columns ++ (rest ++ (countAtoms (word "LIMIT") q.lastLimit ++
        countAtoms (word "OFFSET") q.lastOffset)))) := by
  simp only [Request.terms, List.forall_mem_append, List.forall_mem_map, and_assoc] at hterms
  obtain ⟨-, -, hrows, hgrouped, hgroups, hordered, -, -, hendings⟩ := hterms
  simp only [selectPieces, bind_eq_ok_iff, pure_eq_ok_iff] at h
  obtain ⟨joins, hjoins, conditions, hconditions, groups, hgroupPieces, having', hhaving, order,
    horder, fragments, hfragments, rfl⟩ := h
  have hwhere : SpellsApart " WHERE " [word "WHERE"] := by decide
  have hhavingWord : SpellsApart " HAVING " [word "HAVING"] := by decide
  obtain ⟨ass, hass, hjoinsFollow⟩ := exists_rows
    (forall_of_mapM hjoins fun j hj qs hqs => exists_follows_joinPieces (hjs j hj) hqs)
  obtain ⟨was, hwas, hconditions⟩ := readAsClause_filters hwhere hrows hconditions
  obtain ⟨gas, hgas, hgroupPieces⟩ := readAsClause_groupPieces hgrouped hgroupPieces
  obtain ⟨has, hhas, hhaving⟩ := readAsClause_filters hhavingWord hgroups hhaving
  obtain ⟨oas, hoas, horder⟩ := readAsClause_orderPieces hordered horder
  have hlimit : Follows (countPieces " LIMIT " q.lastLimit) _ :=
    follows_countPieces (a := word "LIMIT") (by decide) _
  have hoffset : Follows (countPieces " OFFSET " q.lastOffset) _ :=
    follows_countPieces (a := word "OFFSET") (by decide) _
  obtain rfl : [] = fragments := by
    have hnone : q.endings = [] :=
      List.eq_nil_iff_forall_not_mem.mpr fun f hf => hendings f hf _ List.mem_cons_self
    simpa [fragmentPieces, hnone, Term.piecesOfAll] using hfragments
  have hrest := (Follows.flatten hjoinsFollow).append (hconditions.append (hgroupPieces.append
    (hhaving.append (horder.append (hlimit.append hoffset)))))
  have hfromWord : SpellsApart " FROM " [word "FROM"] := by decide
  have hfrom := hcolumns.joined hfromWord ((reads_aliased source.relation source.name).append hrest)
  obtain ⟨opening, hopening, hspells⟩ : ∃ opening ∈ openings,
      Spells (if (ofJoins source q js).distinct then "SELECT DISTINCT " else "SELECT ") opening := by
    cases (ofJoins source q js).distinct with
    | true => exact ⟨[word "SELECT", word "DISTINCT"], by decide, by decide⟩
    | false => exact ⟨[word "SELECT"], by decide, by decide⟩
  refine ⟨opening, hopening, _, .clauses source.relation source.name hass hwas hgas hhas hoas, ?_⟩
  simpa using Reads.word hspells hfrom

end Plan

/-! ## Statements -/

namespace Query

variable {registry : Option Registry} {q : Query}

/-- The query selects something, or it begins with a relation that has no schema or whose schema has
stored fields. -/
def HasColumns (registry : Option Registry) (q : Query) : Prop :=
  q.lastSelect = none → ∀ name binding, q.root = .source name binding →
    ∀ schema, Plan.resolve? registry name = some schema → schema.stored ≠ []

/-- The query has a limit if it passes over rows. -/
def LimitsOffset (q : Query) : Prop := q.lastOffset.isSome → q.lastLimit.isSome

/-- The numbers of rows of the query as atoms. -/
def counts (q : Query) : List Atom :=
  Plan.countAtoms (word "LIMIT") q.lastLimit ++ Plan.countAtoms (word "OFFSET") q.lastOffset

/-- Behind a selection up to its order, the numbers of rows make a sentence if rows are passed over
only behind a limit. -/
theorem sentence_counts_iff {as : List Atom} (hbody : Body as) :
    Sentence (as ++ q.counts) ↔ q.LimitsOffset := by
  cases hlimit : q.lastLimit with
  | none =>
      cases hoffset : q.lastOffset with
      | none => simpa [counts, Plan.countAtoms, LimitsOffset, hlimit, hoffset] using Sentence.all hbody
      | some m =>
          simp only [counts, Plan.countAtoms, LimitsOffset, hlimit, hoffset, Option.isSome_none,
            Option.isSome_some, if_true, Bool.false_eq_true, if_false, List.nil_append,
            forall_const, iff_false]
          intro hsentence
          -- without a limit, none of the atoms is its word
          have hmem := hsentence.limit_of_offset (by simp)
          refine absurd ?_ (hbody.unlimited (word "LIMIT") ?_)
          · decide
          · simpa using hmem
  | some n =>
      have hn := Sentence.limit hbody .placeholder
      cases hoffset : q.lastOffset with
      | none => simpa [counts, Plan.countAtoms, LimitsOffset, hlimit, hoffset] using hn
      | some m =>
          have hm := Sentence.offset hbody .placeholder .placeholder
          simpa [counts, Plan.countAtoms, LimitsOffset, hlimit, hoffset] using hm

/-- What is put out is read as columns if the query has any, and else as nothing. -/
theorem exists_columns {name binding : String} (hroot : q.root = .source name binding)
    {js : List PlannedJoin} {out : Projection}
    (hout : (Plan.ofJoins (Plan.bind registry binding name) q js).projected .sqlite = .ok out)
    (hterms : ∀ t ∈ Request.select.terms q, t.Formed) :
    ∃ columns, Reads out.pieces columns ∧
      (q.HasColumns registry → Listed ResultColumn columns) ∧
      (¬ q.HasColumns registry → columns = []) := by
  by_cases hcolumns : q.HasColumns registry
  · have hselect : ∀ ts ∈ q.lastSelect, ∀ t ∈ ts, (Column.termOf t).Formed := by
      intro ts hts t ht
      have hmem : t ∈ q.lastSelect.getD [] := by simpa [Option.mem_def.mp hts] using ht
      exact hterms _ (by simp [Request.terms, List.mem_map_of_mem hmem])
    obtain ⟨columns, hlisted, hreads⟩ := Plan.readAs_projected hout (by simpa using hselect)
      fun hnone => hcolumns (by simpa using hnone) name binding hroot
    exact ⟨columns, hreads, fun _ => hlisted, fun h => absurd hcolumns h⟩
  · have hnothing := hcolumns
    simp only [HasColumns, not_forall, not_not] at hnothing
    obtain ⟨hnone, name', binding', hroot', schema, hschema, hstored⟩ := hnothing
    obtain ⟨rfl, rfl⟩ : name = name' ∧ binding = binding' := by simpa [hroot] using hroot'
    have hpieces : out.pieces = [] :=
      Plan.pieces_projected_eq_nil hout (by simpa using hnone) hschema hstored
    exact ⟨[], by simpa [hpieces] using Reads.nil, fun h => absurd h hcolumns, fun _ => rfl⟩

/-- The atoms of a statement: an opening, the columns if the query has any, the clauses up to the
order and the numbers of rows. -/
theorem exists_atoms_compile {s : Statement} (h : q.compile registry .sqlite = .ok s)
    (hterms : ∀ t ∈ Request.select.terms q, t.Formed) :
    ∃ opening columns rest, opening ∈ openings ∧ Remainder rest ∧
      (q.HasColumns registry → Listed ResultColumn columns) ∧
      (¬ q.HasColumns registry → columns = []) ∧
      Atom.ofText s.text = some (opening ++ columns ++ rest ++ q.counts) := by
  simp only [compile, Plan.select, bind_eq_ok_iff, pure_eq_ok_iff, Plan.ofQuery_eq_ok_iff] at h
  obtain ⟨_, ⟨name, binding, js, hroot, hj, -, rfl⟩, out, hout, ps, hps, rfl⟩ := h
  have hon : ∀ t ∈ q.joinTerms, t.Formed := fun t ht => hterms t (by simp [Request.terms, ht])
  have hfields : ∀ b n c m, (Term.binary .eq (.field b n) (.field c m)).Formed := by
    simp [Term.Formed, Term.nodes, Term.FormedAt]
  have hjs : ∀ j ∈ js, j.condition.Formed :=
    hj.forall_condition (fun op _ _ => Term.formed_connected op) hfields hon
  obtain ⟨columns, hreads, hlisted, hnothing⟩ := exists_columns hroot hout hterms
  obtain ⟨opening, hopening, rest, hrest, hall⟩ :=
    Plan.exists_reads_selectPieces hjs hterms hreads hps
  exact ⟨opening, columns, rest, hopening, hrest, hlisted, hnothing, by
    simpa [counts, Statement.ofPieces] using hall.ofText⟩

/-- The statement of a query of formed terms can be read in atoms. They are a sentence exactly when
the query has a limit if it passes over rows, and has columns. -/
theorem isSentence_compile_iff {s : Statement} (h : q.compile registry .sqlite = .ok s)
    (hterms : ∀ t ∈ Request.select.terms q, t.Formed) :
    (Atom.ofText s.text).isSome ∧
      (IsSentence s.text ↔ q.LimitsOffset ∧ q.HasColumns registry) := by
  obtain ⟨opening, columns, rest, hopening, hrest, hlisted, hnothing, htext⟩ :=
    exists_atoms_compile h hterms
  have hreading : IsSentence s.text ↔ Sentence (opening ++ columns ++ rest ++ q.counts) := by
    simp [IsSentence, htext]
  refine ⟨by rw [htext]; rfl, ?_⟩
  rw [hreading]
  by_cases hcolumns : q.HasColumns registry
  · have hbody : Body (opening ++ columns ++ rest) := .select hopening (hlisted hcolumns) hrest
    rw [sentence_counts_iff hbody, and_iff_left hcolumns]
  · obtain ⟨more, hfrom⟩ := hrest.exists_from
    have hnone : ¬ Sentence (opening ++ columns ++ rest ++ q.counts) := by
      rw [hnothing hcolumns, hfrom]
      simpa using not_sentence_of_from hopening
    exact iff_of_false hnone fun hboth => hcolumns hboth.2

/-- The rows behind the first five, without and with a limit. -/
theorem isSentence_compile_iff_offset :
    let q : Query := ⟨.source "t" "t", [.offset 5]⟩
    let limited : Query := ⟨.source "t" "t", [.limit 10, .offset 5]⟩
    ∃ s s', q.compile none .sqlite = .ok s ∧ limited.compile none .sqlite = .ok s' ∧
      s.text = "SELECT \"t\".* FROM \"t\" AS \"t\" OFFSET ?" ∧ ¬ IsSentence s.text ∧
      IsSentence s'.text := by
  intro q limited
  have hs : q.compile none .sqlite = .ok
      ⟨"SELECT \"t\".* FROM \"t\" AS \"t\" OFFSET ?", [.value (.int 5)], [], none⟩ := by
    rfl
  have hs' : limited.compile none .sqlite = .ok
      ⟨"SELECT \"t\".* FROM \"t\" AS \"t\" LIMIT ? OFFSET ?",
        [.value (.int 10), .value (.int 5)], [], none⟩ := by
    rfl
  have hliteral : ∀ n, (Term.literal (.int n)).Formed := by
    simp [Term.Formed, Term.nodes, Term.FormedAt]
  have hterms : ∀ t ∈ Request.select.terms q, t.Formed :=
    List.forall_mem_singleton.mpr (hliteral 5)
  have hterms' : ∀ t ∈ Request.select.terms limited, t.Formed :=
    List.forall_mem_cons.mpr ⟨hliteral 10, List.forall_mem_singleton.mpr (hliteral 5)⟩
  have hcolumns : limited.HasColumns none := by
    rintro - name binding - schema ⟨⟩
  refine ⟨_, _, hs, hs', rfl, fun hsentence => ?_, ?_⟩
  · obtain ⟨hlimits, -⟩ := (isSentence_compile_iff hs hterms).2.mp hsentence
    exact absurd (hlimits rfl) (by decide)
  · exact (isSentence_compile_iff hs' hterms').2.mpr ⟨fun _ => rfl, hcolumns⟩

end Query

end RecordMapper
