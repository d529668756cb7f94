import Mathlib.Data.List.Induction
import RecordMapper.Proofs.Sql.Request
import RecordMapper.Proofs.Sql.Selected

/-! # The terms of the parts of a statement

Each part of a statement spreads the terms of its clauses. -/

namespace RecordMapper

open Outcome Piece

variable {registry : Option Registry} {d : Dialect}

/-! ## Conditions -/

/-- Two conditions that are joined spread the terms of the first and then of the second. -/
theorem item_connected {s : Scope} {op : Connective} {t u : Term} {ts us : List Term}
    (ht : ∀ qs, t.pieces d s false = .ok qs → Item d qs ts)
    (hu : ∀ qs, u.pieces d s false = .ok qs → Item d qs us) {ps : List Piece}
    (h : (Term.connected op [t, u]).pieces d s false = .ok ps) : Item d ps (ts ++ us) := by
  simp only [Term.pieces, Term.piecesOfAll, bind_eq_ok_iff, pure_eq_ok_iff,
    Except.ok.injEq] at h
  obtain ⟨w, hw, _, ⟨qs, hqs, _, ⟨rs, hrs, _, rfl, rfl⟩, rfl⟩, rfl⟩ := h
  have hend : Spread d [.word ")"] [] := .word (by simp [vocabulary]) .nil
  have hright := (hu rs hrs w (connectiveWord_mem hw)).append hend
  refine .spread ?_
  simpa [separated] using (ht qs hqs "(" (by simp [vocabulary])).append hright

/-- The terms of joined conditions are spread over the pieces of all of them. -/
theorem item_combineAll {s : Scope} {filters : List (Connective × Term)} {t : Term}
    {ps : List Piece} (ht : Plan.combineAll none filters = some t)
    (hps : t.pieces d s false = .ok ps) : Item d ps (filters.map Prod.snd) := by
  induction filters using List.reverseRecOn generalizing t ps with
  | nil => simp [Plan.combineAll] at ht
  | append_singleton filters f ih =>
      obtain ⟨op, u⟩ := f
      have hlast : Plan.combine (Plan.combineAll none filters) op u = t := by
        simpa [Plan.combineAll] using ht
      cases hb : Plan.combineAll none filters with
      | none =>
          obtain rfl := Plan.combineAll_eq_none_iff.mp hb
          rw [hb, Plan.combine] at hlast
          exact .term (hlast ▸ hps)
      | some b =>
          rw [hb, Plan.combine] at hlast
          obtain rfl := hlast
          simpa using item_connected (fun qs => ih hb) (fun qs => Item.term) hps

theorem spread_conditionPieces {s : Scope} {keyword : String} (hk : keyword ∈ vocabulary)
    {filters : List (Connective × Term)} {ps : List Piece}
    (h : Plan.conditionPieces d s keyword (Plan.combineAll none filters) = .ok ps) :
    Spread d ps (filters.map Prod.snd) := by
  cases ht : Plan.combineAll none filters with
  | none =>
      obtain rfl : [] = ps := by simpa [ht, Plan.conditionPieces] using h
      rw [Plan.combineAll_eq_none_iff.mp ht]
      exact .nil
  | some t =>
      simp only [ht, Plan.conditionPieces, bind_eq_ok_iff, pure_eq_ok_iff] at h
      obtain ⟨qs, hqs, rfl⟩ := h
      exact item_combineAll ht hqs keyword hk

/-! ## Joins -/

theorem spread_fieldPieces {s : Scope} {binding name : String} {ps qs : List Piece}
    {ts : List Term} (h : s.fieldPieces binding name = .ok ps) (hq : Spread d qs ts) :
    Spread d (ps ++ qs) ts := by
  rw [Scope.fieldPieces_eq h]
  exact .name (.word (by simp [vocabulary]) (.name hq))

/-- A comparison of two fields has no terms but its fields. -/
theorem spread_fieldsEq {s : Scope} {b n c m : String} {ps : List Piece}
    (h : (Term.binary .eq (.field b n) (.field c m)).pieces d s false = .ok ps) :
    Spread d ps [] := by
  simp only [Term.pieces, bind_eq_ok_iff, pure_eq_ok_iff] at h
  obtain ⟨-, -, ls, hl, rs, hr, rfl⟩ := h
  have hop : ∀ name, Operator.eq ≠ .other name := by simp
  obtain ⟨hbefore, hbetween, hafter⟩ := operatorWords_mem (d := d) hop
  have hright := spread_fieldPieces (d := d) hr (.word hafter .nil)
  simpa [Term.binaryPieces] using .word hbefore (spread_fieldPieces hl (.word hbetween hright))

/-- The condition of a join spreads the condition that was given with it. -/
theorem item_introduced {s : Scope} {bindings : List Bound} {binding : String}
    {target : JoinTarget} {on : Option Term} {joined : Bound} {condition : Term}
    (h : Plan.Introduces registry bindings binding target on joined condition) {ps : List Piece}
    (hps : condition.pieces d s false = .ok ps) : Item d ps on.toList := by
  cases h with
  | relation name on => exact .term hps
  | association =>
      cases on with
      | none => exact .spread (spread_fieldsEq hps)
      | some t =>
          simpa using item_connected (fun qs hqs => .spread (spread_fieldsEq hqs))
            (fun qs => Item.term) hps

theorem spread_aliased {relation binding : String} {ps : List Piece} {ts : List Term}
    (h : Spread d ps ts) : Spread d (aliased relation binding ++ ps) ts :=
  .name (.word (by simp [vocabulary]) (.name h))

theorem spread_joins {bindings : List Bound} {cs : List Clause} {js : List PlannedJoin}
    (h : Plan.Joined registry bindings cs js) {pss : List (List Piece)}
    (hpss : js.mapM (Plan.joinPieces d) = .ok pss) :
    Spread d pss.flatten (cs.filterMap Clause.onTerm?) := by
  induction h generalizing pss with
  | nil bindings =>
      obtain rfl : [] = pss := by simpa using hpss
      exact .nil
  | @join bindings target binding on kind joined condition cs js hintro _ ih =>
      simp only [List.mapM_cons, Plan.joinPieces, bind_eq_ok_iff, pure_eq_ok_iff] at hpss
      obtain ⟨_, ⟨qs, hqs, rfl⟩, rest, hrest, rfl⟩ := hpss
      have hword : Plan.joinWord kind ∈ vocabulary := by
        cases kind <;> simp [vocabulary, Plan.joinWord]
      have hon := item_introduced hintro hqs " ON " (by simp [vocabulary])
      have hall : (Clause.join target binding on kind :: cs).filterMap Clause.onTerm? =
          on.toList ++ cs.filterMap Clause.onTerm? := by
        cases on <;> simp [List.filterMap_cons, Clause.onTerm?]
      rw [hall]
      simpa using (Spread.word hword (spread_aliased hon)).append (ih hrest)
  | @other bindings c cs js hj _ _ ih =>
      have hall : (c :: cs).filterMap Clause.onTerm? = cs.filterMap Clause.onTerm? := by
        cases c <;> simp_all [List.filterMap_cons, Clause.onTerm?, Clause.isJoin]
      rw [hall]
      exact ih hpss

/-! ## Lists of terms -/

theorem items_piecesOfAll {s : Scope} {inAggregate : Bool} {ts : List Term}
    {pss : List (List Piece)} (h : Term.piecesOfAll d s inAggregate ts = .ok pss) :
    List.Forall₂ (Item d) pss (ts.map fun t => [t]) := by
  rw [Term.piecesOfAll_eq_ok_iff] at h
  rw [List.forall₂_map_right_iff]
  exact h.flip.imp fun _ _ => Item.term

theorem spread_clausePieces {keyword separator : String} (hk : keyword ∈ vocabulary)
    (hs : separator ∈ vocabulary) {pss : List (List Piece)} {tss : List (List Term)}
    (h : List.Forall₂ (Item d) pss tss) :
    Spread d (Plan.clausePieces keyword separator pss) tss.flatten := by
  unfold Plan.clausePieces
  split
  · rename_i hempty
    obtain rfl := List.isEmpty_iff.mp hempty
    cases h
    exact .nil
  · exact Item.separated hs h keyword hk

theorem flatten_map_singleton {α : Type} (f : α → Term) (xs : List α) :
    (xs.map fun x => [f x]).flatten = xs.map f := by
  rw [← List.flatMap_def, List.map_eq_flatMap]

theorem spread_groupPieces {p : Plan} {ps : List Piece} (h : p.groupPieces d = .ok ps) :
    Spread d ps p.groupBy := by
  simp only [Plan.groupPieces, bind_eq_ok_iff, pure_eq_ok_iff] at h
  obtain ⟨pss, hpss, rfl⟩ := h
  have hall := spread_clausePieces (show " GROUP BY " ∈ vocabulary by simp [vocabulary])
    (show ", " ∈ vocabulary by simp [vocabulary]) (items_piecesOfAll hpss)
  rwa [flatten_map_singleton, List.map_id'] at hall

theorem spread_orderPieces {p : Plan} {ps : List Piece} (h : p.orderPieces d = .ok ps) :
    Spread d ps (p.orderBy.map Prod.fst) := by
  simp only [Plan.orderPieces, bind_eq_ok_iff, pure_eq_ok_iff] at h
  obtain ⟨pss, hpss, rfl⟩ := h
  have hitems : List.Forall₂ (Item d)
      ((pss.zip (p.orderBy.map Prod.snd)).map fun x => x.1 ++ [.word (Plan.directionWord x.2)])
      (p.orderBy.map fun x => [x.1]) := by
    have hforall := items_piecesOfAll hpss
    clear hpss
    generalize p.orderBy = items at hforall
    induction items generalizing pss with
    | nil => simp
    | cons item items ih =>
        simp only [List.map_cons] at hforall
        cases hforall with
        | cons hps hpss =>
            refine .cons ?_ (ih _ hpss)
            have hword : Plan.directionWord item.2 ∈ vocabulary := by
              cases item.2 <;> simp [vocabulary, Plan.directionWord]
            simpa using hps.append (.word hword .nil)
  have hall := spread_clausePieces (show " ORDER BY " ∈ vocabulary by simp [vocabulary])
    (show ", " ∈ vocabulary by simp [vocabulary]) hitems
  rwa [flatten_map_singleton] at hall

theorem spread_countPieces {keyword : String} (hk : keyword ∈ vocabulary) (count : Option Int) :
    Spread d (Plan.countPieces keyword count)
      (count.toList.map fun n => .literal (.int n)) := by
  cases count with
  | none => exact .nil
  | some n =>
      have hn : (Term.literal (.int n)).pieces d ⟨[], .where⟩ false =
          .ok [.slot (.value (.int n))] := rfl
      exact Item.term hn keyword hk

theorem spread_fragmentPieces {p : Plan} {ps : List Piece} (h : p.fragmentPieces d = .ok ps) :
    Spread d ps (p.fragments.map fun f => .fragment f.1 f.2) := by
  simp only [Plan.fragmentPieces, bind_eq_ok_iff, pure_eq_ok_iff] at h
  obtain ⟨pss, hpss, rfl⟩ := h
  rw [Term.piecesOfAll_eq_ok_iff] at hpss
  generalize p.fragments.map (fun f => Term.fragment f.1 f.2) = ts at hpss
  induction hpss with
  | nil => exact .nil
  | cons hps _ ih => exact .term (show " " ∈ vocabulary by simp [vocabulary]) hps ih

/-! ## What is put out -/

theorem item_record (b : Bound) : Item d (Plan.record b).pieces [] := by
  unfold Plan.record
  split
  · exact .spread (.name (.word (by simp [vocabulary]) .nil))
  · rename_i schema hschema
    have hitems : List.Forall₂ (Item d) ((schema.stored.map Field.name).map fun n =>
        [.name b.name, .word ".", .name n]) ((schema.stored.map Field.name).map fun _ => []) := by
      rw [List.forall₂_map_right_iff, List.forall₂_map_left_iff, List.forall₂_same]
      exact fun n _ => .spread (.name (.word (by simp [vocabulary]) (.name .nil)))
    have hnone : ((schema.stored.map Field.name).map fun _ => ([] : List Term)).flatten = [] := by
      simp
    have hall := Item.separated (show ", " ∈ vocabulary by simp [vocabulary]) hitems
    rwa [hnone] at hall

theorem items_ofTerms {s : Scope} {used : List String} {position : Nat} {ts : List Term}
    {columns : List Column} (h : Column.ofTerms d s used position ts = .ok columns) :
    List.Forall₂ (Item d) (columns.map Column.pieces)
      ((ts.map Column.termOf).map fun t => [t]) := by
  rw [List.forall₂_map_left_iff, List.forall₂_map_right_iff, List.forall₂_map_right_iff]
  refine (Column.forall₂_ofTerms h).flip.imp fun c t hps => ?_
  unfold Column.pieces
  split
  · simpa using (Item.term hps).append (.word (by simp [vocabulary]) (.name .nil))
  · exact .term hps

theorem item_projected {p : Plan} {out : Projection} (h : p.projected d = .ok out) :
    Item d out.pieces ((p.projection.getD []).map Column.termOf) := by
  unfold Plan.projected at h
  split at h
  · rename_i hnone
    obtain rfl := by simpa using h
    simpa [hnone] using item_record p.source
  · simp at h
  · rename_i t ts hsome
    simp only [bind_eq_ok_iff, pure_eq_ok_iff] at h
    obtain ⟨columns, hcolumns, rfl⟩ := h
    have hall := Item.separated (show ", " ∈ vocabulary by simp [vocabulary])
      (items_ofTerms hcolumns)
    rw [flatten_map_singleton, List.map_id'] at hall
    simpa [hsome] using hall

/-! ## New values -/

theorem item_assignment {p : Plan} {x : String × Term} {ps : List Piece}
    (h : p.assignment d x = .ok ps) : Item d ps [x.2.inPlace] := by
  intro w hw
  simp only [Plan.assignment, bind_eq_ok_iff] at h
  obtain ⟨-, -, h⟩ := h
  split at h
  · rename_i bound hbound
    obtain rfl := by simpa using h
    have hterm : x.2.inPlace = bound.toTerm := by simp [Term.inPlace, hbound]
    have hpieces : bound.toTerm.pieces d ⟨p.bindings, .updateAll⟩ false = .ok [.slot bound] := by
      cases bound <;> rfl
    rw [hterm]
    exact .word hw (.name (Item.term hpieces " = " (by simp [vocabulary])))
  · rename_i hnone
    simp only [bind_eq_ok_iff, pure_eq_ok_iff] at h
    obtain ⟨qs, hqs, rfl⟩ := h
    have hterm : x.2.inPlace = x.2 := by simp [Term.inPlace, hnone]
    rw [hterm]
    exact .word hw (.name (Item.term hqs " = " (by simp [vocabulary])))

/-! ## Statements -/

theorem spread_selectPieces {source : Bound} {q : Query} {js : List PlannedJoin}
    (hj : Plan.Joined registry [source] q.rest js) {out : Projection} {ps : List Piece}
    (hout : (Plan.ofJoins source q js).projected d = .ok out)
    (hps : (Plan.ofJoins source q js).selectPieces d out = .ok ps) :
    Spread d ps (Request.select.terms q) := by
  simp only [Plan.selectPieces, bind_eq_ok_iff, pure_eq_ok_iff] at hps
  obtain ⟨joins, hjoins, conditions, hconditions, groups, hgroups, having', hhaving, order, horder,
    fragments, hfragments, rfl⟩ := hps
  have hword : ∀ distinct : Bool,
      (if distinct then "SELECT DISTINCT " else "SELECT ") ∈ vocabulary := by
    intro distinct
    cases distinct <;> simp [vocabulary]
  have hout := item_projected hout _ (hword (Plan.ofJoins source q js).distinct)
  have hfrom : Spread d (.word " FROM " :: aliased source.relation source.name) [] :=
    .word (by simp [vocabulary]) (.name (.word (by simp [vocabulary]) (.name .nil)))
  have hjoins := spread_joins hj hjoins
  have hconditions : Spread d conditions (q.rowFilters.map Prod.snd) :=
    spread_conditionPieces (by simp [vocabulary]) hconditions
  have hgroups := spread_groupPieces hgroups
  have hhaving : Spread d having' (q.groupFilters.map Prod.snd) :=
    spread_conditionPieces (by simp [vocabulary]) hhaving
  have horder := spread_orderPieces horder
  have hlimit := spread_countPieces (d := d)
    (show " LIMIT " ∈ vocabulary by simp [vocabulary]) q.lastLimit
  have hoffset := spread_countPieces (d := d)
    (show " OFFSET " ∈ vocabulary by simp [vocabulary]) q.lastOffset
  have hfragments := spread_fragmentPieces hfragments
  have hall := (((((((hout.append hfrom).append hjoins).append hconditions).append
    hgroups).append hhaving).append horder).append hlimit).append hoffset |>.append hfragments
  simpa [Request.terms, Query.joinTerms] using hall

theorem spread_deleteAllPieces {source : Bound} {q : Query} {js : List PlannedJoin}
    {ps : List Piece} (h : (Plan.ofJoins source q js).deleteAllPieces d = .ok ps) :
    Spread d ps (Request.deleteAll.terms q) := by
  simp only [Plan.deleteAllPieces, bind_eq_ok_iff, pure_eq_ok_iff] at h
  obtain ⟨conditions, hconditions, rfl⟩ := h
  have hfrom : Spread d (.word "DELETE FROM " :: aliased source.relation source.name) [] :=
    .word (by simp [vocabulary]) (.name (.word (by simp [vocabulary]) (.name .nil)))
  have hconditions : Spread d conditions (q.rowFilters.map Prod.snd) :=
    spread_conditionPieces (by simp [vocabulary]) hconditions
  have hend : Spread d [.word " RETURNING *"] [] := .word (by simp [vocabulary]) .nil
  simpa [Request.terms] using (hfrom.append hconditions).append hend

theorem items_assignments {p : Plan} {values : Row Term} {pss : List (List Piece)}
    (h : values.mapM (p.assignment d) = .ok pss) :
    List.Forall₂ (Item d) pss (values.map fun x => [x.2.inPlace]) := by
  rw [mapM_eq_ok_iff] at h
  rw [List.forall₂_map_right_iff]
  exact h.flip.imp fun _ _ => item_assignment

theorem spread_updateAllPieces {source : Bound} {q : Query} {js : List PlannedJoin}
    {values : Row Term} {ps : List Piece}
    (h : (Plan.ofJoins source q js).updateAllPieces d values = .ok ps) :
    Spread d ps ((Request.updateAll values).terms q) := by
  simp only [Plan.updateAllPieces] at h
  split at h
  · simp at h
  · simp only [bind_eq_ok_iff, pure_eq_ok_iff] at h
    obtain ⟨pss, hpss, conditions, hconditions, rfl⟩ := h
    have hfrom : Spread d (.word "UPDATE " :: aliased source.relation source.name) [] :=
      .word (by simp [vocabulary]) (.name (.word (by simp [vocabulary]) (.name .nil)))
    have hvalues := Item.separated (show ", " ∈ vocabulary by simp [vocabulary])
      (items_assignments hpss) " SET " (by simp [vocabulary])
    have hconditions : Spread d conditions (q.rowFilters.map Prod.snd) :=
      spread_conditionPieces (by simp [vocabulary]) hconditions
    have hend : Spread d [.word " RETURNING *"] [] := .word (by simp [vocabulary]) .nil
    have hall := ((hfrom.append hvalues).append hconditions).append hend
    rw [flatten_map_singleton] at hall
    simpa [Request.terms] using hall

/-- The terms of a request are spread over the pieces of its statement. -/
theorem Request.spread_pieces {q : Query} {r : Request} {ps : List Piece}
    (h : r.pieces registry d q = .ok ps) : Spread d ps (r.terms q) := by
  cases r with
  | select =>
      simp only [pieces, bind_eq_ok_iff, Plan.ofQuery_eq_ok_iff] at h
      obtain ⟨_, ⟨name, binding, js, -, hj, -, rfl⟩, out, hout, hps⟩ := h
      exact spread_selectPieces hj hout hps
  | deleteAll =>
      simp only [pieces, bind_eq_ok_iff, Plan.ofBulk_eq_ok_iff, Plan.ofQuery_eq_ok_iff] at h
      obtain ⟨_, ⟨⟨name, binding, js, -, hj, -, rfl⟩, -⟩, hps⟩ := h
      exact spread_deleteAllPieces hps
  | updateAll values =>
      simp only [pieces, bind_eq_ok_iff, Plan.ofBulk_eq_ok_iff, Plan.ofQuery_eq_ok_iff] at h
      obtain ⟨_, ⟨⟨name, binding, js, -, hj, -, rfl⟩, -⟩, hps⟩ := h
      exact spread_updateAllPieces hps

/-- A statement binds the values of the terms of its request, in order. -/
theorem Request.parameters_statement {q : Query} {r : Request} {s : Statement}
    (h : r.statement registry d q = .ok s) : s.parameters = (r.terms q).flatMap Term.bound := by
  obtain ⟨ps, hps, -, hparameters⟩ := statement_eq_ok h
  rw [hparameters, (spread_pieces hps).parameters]

end RecordMapper
