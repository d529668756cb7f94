import Mathlib.Data.List.Induction
import RecordMapper.Proofs.Sql.Binding
import RecordMapper.Proofs.Sql.Selected
import RecordMapper.Proofs.Sql.WellFormed

/-! # Accepted queries

A query is compiled exactly when it is well formed. A term has pieces exactly when each of its nodes
fits where it stands; from there each part of a statement is judged by its own terms. -/

namespace RecordMapper

open Outcome

variable {registry : Option Registry} {d : Dialect}

/-! ## Checks of a node -/

theorem Bound.succeeds_checkField_iff {b : Bound} {name : String} :
    Succeeds (b.checkField name) ↔ b.HasField name := by
  unfold Bound.checkField Bound.HasField
  split
  · simp_all
  · rename_i schema hschema
    simp only [hschema, Option.some.injEq, forall_eq']
    split
    · simp_all
    · rename_i f hf
      cases hv : f.virtual <;> simp [hf, hv]

namespace Term

variable {s : Scope}

theorem succeeds_fieldPieces_iff {binding name : String} :
    Succeeds (s.fieldPieces binding name) ↔ (field binding name).FitsAt s := by
  unfold Scope.fieldPieces FitsAt
  split
  · simp_all
  · rename_i b hb
    rw [succeeds_bind_pure_iff, Bound.succeeds_checkField_iff]
    simp [hb]

theorem succeeds_checkOperator_iff {op : Operator} {l r : Term} :
    Succeeds (checkOperator s op l r) ↔ (binary op l r).FitsAt s := by
  unfold checkOperator FitsAt
  split
  · simp [Operator.all]
  · rename_i hother
    have hop : op ∈ Operator.all := by
      cases op with
      | other name => exact absurd rfl (hother name)
      | _ => simp [Operator.all]
    split
    · rename_i h
      simp only [not_succeeds_error, false_iff]
      rintro ⟨-, hnone⟩
      have := hnone h.1
      simp_all
    · simp_all

theorem succeeds_connectiveWord_iff {op : Connective} :
    Succeeds (connectiveWord op) ↔ op = .and ∨ op = .or := by
  cases op <;> simp [connectiveWord]

theorem succeeds_checkAggregate_iff {inAggregate : Bool} {f : AggregateFunction} :
    Succeeds (checkAggregate s inAggregate f) ↔
      f ∈ [.count, .sum, .avg, .min, .max] ∧ inAggregate = false ∧
        s.part.allowsAggregates = true := by
  cases hallows : s.part.allowsAggregates <;> cases inAggregate <;> cases f <;>
    simp [checkAggregate, hallows]

theorem succeeds_fragmentParts_iff {raw : String} {params : Nat} :
    Succeeds (fragmentParts raw params) ↔
      ∃ parts, Fragment.split raw = .ok parts ∧ Fragment.slotCount parts = params := by
  simp [Succeeds, fragmentParts_eq_ok_iff]

/-! ## Terms -/

/-- Each of the terms fits where it stands, and within a function of groups none of them is one. -/
def AllFit (s : Scope) (inAggregate : Bool) (ts : List Term) : Prop :=
  ∀ t ∈ ts, t.FitsAt s ∧ (inAggregate = true → t.isAggregate = false)

variable {inAggregate : Bool}

theorem allFit_nil : AllFit s inAggregate [] := by simp [AllFit]

theorem allFit_cons {t : Term} {ts : List Term} :
    AllFit s inAggregate (t :: ts) ↔
      t.FitsAt s ∧ (inAggregate = true → t.isAggregate = false) ∧ AllFit s inAggregate ts := by
  simp only [AllFit, List.forall_mem_cons, and_assoc]

/-- A node that is no function of groups is judged by itself and with those below it. -/
theorem allFit_node {t : Term} (h : t.isAggregate = false) {ts : List Term} :
    AllFit s inAggregate (t :: ts) ↔ t.FitsAt s ∧ AllFit s inAggregate ts := by
  simp [allFit_cons, h]

theorem allFit_append {ts us : List Term} :
    AllFit s inAggregate (ts ++ us) ↔ AllFit s inAggregate ts ∧ AllFit s inAggregate us := by
  simp only [AllFit, List.forall_mem_append]

mutual

/-- A term has pieces exactly when each of its nodes fits. -/
theorem succeeds_pieces_iff : ∀ (inAggregate : Bool) (t : Term),
    Succeeds (t.pieces d s inAggregate) ↔ AllFit s inAggregate t.nodes
  | inAggregate, .field b n => by
      rw [pieces, succeeds_fieldPieces_iff, nodes, allFit_node rfl, and_iff_left allFit_nil]
  | inAggregate, .literal v => by
      rw [pieces, nodes, allFit_node rfl, and_iff_left allFit_nil]
      simp [FitsAt]
  | inAggregate, .held item => by
      rw [pieces, nodes, allFit_node rfl, and_iff_left allFit_nil]
      simp [FitsAt]
  | inAggregate, .binary op l r => by
      rw [pieces, nodes, allFit_node rfl, allFit_append, ← succeeds_checkOperator_iff,
        ← succeeds_pieces_iff inAggregate l, ← succeeds_pieces_iff inAggregate r]
      refine succeeds_bind_iff_and fun _ _ => succeeds_bind_iff_and fun _ _ => ?_
      exact succeeds_bind_pure_iff
  | inAggregate, .connected op ts => by
      rw [pieces, nodes, allFit_node rfl, FitsAt, ← succeeds_connectiveWord_iff,
        ← succeeds_piecesOfAll_iff inAggregate ts]
      refine succeeds_bind_iff_and fun _ _ => ?_
      exact succeeds_bind_pure_iff
  | inAggregate, .not t => by
      rw [pieces, nodes, allFit_node rfl, FitsAt, true_and, ← succeeds_pieces_iff inAggregate t,
        succeeds_bind_pure_iff]
  | inAggregate, .isNull t negated => by
      rw [pieces, nodes, allFit_node rfl, FitsAt, true_and, ← succeeds_pieces_iff inAggregate t,
        succeeds_bind_pure_iff]
  | inAggregate, .inList t [] negated => by
      rw [pieces, nodes, allFit_node rfl, FitsAt, true_and, allNodes, List.append_nil,
        ← succeeds_pieces_iff inAggregate t,
        succeeds_bind_pure_iff]
  | inAggregate, .inList t (v :: vs) negated => by
      rw [pieces, nodes, allFit_node rfl, FitsAt, true_and, allFit_append, allNodes,
        allFit_append, ← succeeds_pieces_iff inAggregate t, ← succeeds_pieces_iff inAggregate v,
        ← succeeds_piecesOfAll_iff inAggregate vs]
      refine succeeds_bind_iff_and fun _ _ => succeeds_bind_iff_and fun _ _ => ?_
      exact succeeds_bind_pure_iff
  | inAggregate, .aggregate f none distinct => by
      have hrest : ∀ a : Unit, checkAggregate s inAggregate f = .ok a → (Succeeds
          (if f = .count then pure [Piece.word "COUNT(*)"] else throw (.emptyAggregate f.word) :
            Except CompileError (List Piece)) ↔ f = .count) := by
        intro _ _
        split <;> simp_all
      rw [pieces, nodes, allFit_cons, FitsAt, and_iff_left allFit_nil,
        succeeds_bind_iff_and hrest, succeeds_checkAggregate_iff]
      constructor
      · rintro ⟨⟨-, rfl, hallows⟩, hcount⟩
        exact ⟨⟨hcount, hallows⟩, by simp⟩
      · rintro ⟨⟨rfl, hallows⟩, hnone⟩
        exact ⟨⟨by simp, by simpa [isAggregate] using hnone, hallows⟩, rfl⟩
  | inAggregate, .aggregate f (some t) distinct => by
      -- the operand is inside of an aggregate, so its nodes fit there when none of them is one
      have hrest : ∀ a : Unit, checkAggregate s inAggregate f = .ok a → (Succeeds (do
          let ps ← pieces d s true t
          return .word f.word.toUpper :: .word (if distinct then "(DISTINCT " else "(") ::
            ps ++ [.word ")"]) ↔ AllFit s true t.nodes) := fun _ _ =>
        succeeds_bind_pure_iff.trans (succeeds_pieces_iff true t)
      rw [pieces, nodes, allFit_cons, FitsAt, succeeds_bind_iff_and hrest,
        succeeds_checkAggregate_iff]
      constructor
      · rintro ⟨⟨hf, rfl, hallows⟩, hfit⟩
        exact ⟨⟨hf, hallows, fun u hu => (hfit u hu).2 rfl⟩, by simp,
          fun u hu => ⟨(hfit u hu).1, by simp⟩⟩
      · rintro ⟨⟨hf, hallows, hnone⟩, hnested, hfit⟩
        exact ⟨⟨hf, by simpa [isAggregate] using hnested, hallows⟩,
          fun u hu => ⟨(hfit u hu).1, fun _ => hnone u hu⟩⟩
  | inAggregate, .fragment raw ps => by
      rw [pieces, nodes, allFit_node rfl, FitsAt, ← succeeds_fragmentParts_iff,
        ← succeeds_piecesOfParams_iff inAggregate ps]
      refine succeeds_bind_iff_and fun _ _ => ?_
      exact succeeds_bind_pure_iff
  | inAggregate, .alias t n => by simp [pieces, nodes, allFit_cons, FitsAt]
  | inAggregate, .order t d => by simp [pieces, nodes, allFit_cons, FitsAt]
  | inAggregate, .pair t word => by simp [pieces, nodes, allFit_cons, FitsAt]
  | inAggregate, .plain v => by simp [pieces, nodes, allFit_cons, FitsAt]

theorem succeeds_piecesOfAll_iff : ∀ (inAggregate : Bool) (ts : List Term),
    Succeeds (piecesOfAll d s inAggregate ts) ↔ AllFit s inAggregate (allNodes ts)
  | inAggregate, [] => by simp [piecesOfAll, allNodes, allFit_nil]
  | inAggregate, t :: ts => by
      rw [piecesOfAll, allNodes, allFit_append, ← succeeds_pieces_iff inAggregate t,
        ← succeeds_piecesOfAll_iff inAggregate ts]
      refine succeeds_bind_iff_and fun _ _ => ?_
      exact succeeds_bind_pure_iff

theorem succeeds_piecesOfParams_iff : ∀ (inAggregate : Bool) (ts : List Term),
    Succeeds (piecesOfParams d s inAggregate ts) ↔ AllFit s inAggregate (paramNodes ts)
  | inAggregate, [] => by simp [piecesOfParams, paramNodes, allFit_nil]
  | inAggregate, t :: ts => by
      rw [piecesOfParams, paramNodes, allFit_append, ← succeeds_piecesOfParams_iff inAggregate ts]
      cases hp : Parameter.ofTerm? t with
      | some p => simp only [pure_bind, and_iff_right allFit_nil, succeeds_bind_pure_iff]
      | none =>
        simp only [← succeeds_pieces_iff inAggregate t]
        refine succeeds_bind_iff_and fun _ _ => ?_
        exact succeeds_bind_pure_iff

end

theorem succeeds_pieces_iff_allowedAt {t : Term} :
    Succeeds (t.pieces d s false) ↔ t.AllowedAt s := by
  simp [succeeds_pieces_iff, AllFit, AllowedAt]

theorem succeeds_piecesOfAll_iff_allowedAt {ts : List Term} :
    Succeeds (piecesOfAll d s false ts) ↔ ∀ t ∈ ts, t.AllowedAt s := by
  simp only [succeeds_piecesOfAll_iff, AllFit, AllowedAt, allNodes_eq_flatMap, List.mem_flatMap,
    Bool.false_eq_true, false_implies, and_true]
  grind

end Term

/-! ## Columns -/

namespace Column

variable {s : Scope}

theorem succeeds_ofTerm_iff {used : List String} {position : Nat} {t : Term} :
    Succeeds (ofTerm d s used position t) ↔
      (termOf t).AllowedAt s ∧ (nameOf used position t).1 ∉ used := by
  rw [ofTerm, ← Term.succeeds_pieces_iff_allowedAt (d := d)]
  refine succeeds_bind_iff_and fun ps _ => ?_
  dsimp only
  split <;> simp_all

/-- Terms are put out when each of them is allowed and their names are new. -/
theorem succeeds_ofTerms_iff {used : List String} {position : Nat} {ts : List Term} :
    Succeeds (ofTerms d s used position ts) ↔
      (∀ t ∈ ts, (termOf t).AllowedAt s) ∧ (∀ n ∈ names used position ts, n ∉ used) ∧
        (names used position ts).Nodup := by
  induction ts generalizing used position with
  | nil => simp [ofTerms, names]
  | cons t ts ih =>
      have hrest : ∀ c, ofTerm d s used position t = .ok c → (Succeeds (do
          let rest ← ofTerms d s (c.name :: used) (position + 1) ts
          return c :: rest) ↔
            Succeeds (ofTerms d s ((nameOf used position t).1 :: used) (position + 1) ts)) :=
        fun c hc => by rw [succeeds_bind_pure_iff, name_ofTerm hc]
      rw [ofTerms, succeeds_bind_iff_and hrest, succeeds_ofTerm_iff, ih, names]
      simp only [List.nodup_cons, List.mem_cons, not_or]
      grind

end Column

/-! ## Parts of a statement -/

namespace Term

variable {s : Scope}

theorem allowedAt_connected_iff {op : Connective} {t u : Term} :
    (connected op [t, u]).AllowedAt s ↔
      (op = .and ∨ op = .or) ∧ t.AllowedAt s ∧ u.AllowedAt s := by
  simp only [AllowedAt, nodes, allNodes, List.append_nil, List.forall_mem_cons,
    List.forall_mem_append, FitsAt]

/-- Joined conditions are allowed when each of them is and they are joined by words of the
language. -/
theorem allowedAt_combineAll_iff {filters : List (Connective × Term)} {t : Term}
    (h : Plan.combineAll none filters = some t) :
    t.AllowedAt s ↔
      (∀ f ∈ filters, f.2.AllowedAt s) ∧ ∀ f ∈ filters.tail, f.1 = .and ∨ f.1 = .or := by
  induction filters using List.reverseRecOn generalizing t with
  | nil => simp [Plan.combineAll] at h
  | append_singleton filters f ih =>
      obtain ⟨op, u⟩ := f
      have hlast : Plan.combine (Plan.combineAll none filters) op u = t := by
        simpa [Plan.combineAll] using h
      cases hb : Plan.combineAll none filters with
      | none =>
          obtain rfl := Plan.combineAll_eq_none_iff.mp hb
          obtain rfl : u = t := by simpa [hb, Plan.combine] using hlast
          simp
      | some b =>
          have hne : filters ≠ [] := by
            rintro rfl
            simp [Plan.combineAll] at hb
          obtain rfl : connected op [b, u] = t := by simpa [hb, Plan.combine] using hlast
          rw [allowedAt_connected_iff, ih hb, List.tail_append_of_ne_nil hne]
          simp only [List.forall_mem_append, List.forall_mem_singleton]
          tauto

end Term

namespace Plan

theorem succeeds_conditionPieces_iff {s : Scope} {keyword : String}
    {filters : List (Connective × Term)} :
    Succeeds (conditionPieces d s keyword (combineAll none filters)) ↔
      (∀ f ∈ filters, f.2.AllowedAt s) ∧ ∀ f ∈ filters.tail, f.1 = .and ∨ f.1 = .or := by
  cases h : combineAll none filters with
  | none =>
      obtain rfl := combineAll_eq_none_iff.mp h
      simp [conditionPieces]
  | some t =>
      rw [conditionPieces, succeeds_bind_pure_iff, Term.succeeds_pieces_iff_allowedAt,
        Term.allowedAt_combineAll_iff h]

theorem succeeds_joins_iff {js : List PlannedJoin} :
    Succeeds (js.mapM (joinPieces d)) ↔ ∀ j ∈ js, j.condition.AllowedAt ⟨j.visible, .join⟩ := by
  simp only [succeeds_mapM_iff, joinPieces, succeeds_bind_pure_iff,
    Term.succeeds_pieces_iff_allowedAt]

theorem succeeds_projected_iff {p : Plan} :
    Succeeds (p.projected d) ↔ ∀ ts, p.projection = some ts →
      (ts ≠ [] ∧ (Column.names [] 1 ts).Nodup) ∧
        ∀ t ∈ ts, (Column.termOf t).AllowedAt ⟨p.bindings, .select⟩ := by
  unfold projected
  split
  · simp_all
  · simp_all
  · rename_i t ts hsome
    rw [succeeds_bind_pure_iff, Column.succeeds_ofTerms_iff]
    simp [hsome]
    tauto

theorem succeeds_groupPieces_iff {p : Plan} :
    Succeeds (p.groupPieces d) ↔ ∀ t ∈ p.groupBy, t.AllowedAt ⟨p.bindings, .groupBy⟩ := by
  rw [groupPieces, succeeds_bind_pure_iff, Term.succeeds_piecesOfAll_iff_allowedAt]

theorem succeeds_orderPieces_iff {p : Plan} :
    Succeeds (p.orderPieces d) ↔ ∀ x ∈ p.orderBy, x.1.AllowedAt ⟨p.bindings, .orderBy⟩ := by
  rw [orderPieces, succeeds_bind_pure_iff, Term.succeeds_piecesOfAll_iff_allowedAt,
    List.forall_mem_map]

theorem succeeds_fragmentPieces_iff {p : Plan} :
    Succeeds (p.fragmentPieces d) ↔
      ∀ f ∈ p.fragments, (Term.fragment f.1 f.2).AllowedAt ⟨p.bindings, .fragment⟩ := by
  rw [fragmentPieces, succeeds_bind_pure_iff, Term.succeeds_piecesOfAll_iff_allowedAt,
    List.forall_mem_map]

theorem succeeds_selectPieces_iff {p : Plan} {out : Projection} :
    Succeeds (p.selectPieces d out) ↔
      Succeeds (p.joins.mapM (joinPieces d)) ∧ Succeeds (p.wherePieces d) ∧
        Succeeds (p.groupPieces d) ∧ Succeeds (p.havingPieces d) ∧ Succeeds (p.orderPieces d) ∧
        Succeeds (p.fragmentPieces d) := by
  rw [selectPieces]
  refine succeeds_bind_iff_and fun _ _ => succeeds_bind_iff_and fun _ _ =>
    succeeds_bind_iff_and fun _ _ => succeeds_bind_iff_and fun _ _ =>
    succeeds_bind_iff_and fun _ _ => ?_
  exact succeeds_bind_pure_iff

theorem succeeds_select_iff {p : Plan} :
    Succeeds (p.select d) ↔
      Succeeds (p.projected d) ∧ Succeeds (p.joins.mapM (joinPieces d)) ∧
        Succeeds (p.wherePieces d) ∧ Succeeds (p.groupPieces d) ∧ Succeeds (p.havingPieces d) ∧
        Succeeds (p.orderPieces d) ∧ Succeeds (p.fragmentPieces d) := by
  rw [select]
  refine succeeds_bind_iff_and fun out _ => ?_
  exact succeeds_bind_pure_iff.trans succeeds_selectPieces_iff

end Plan

/-- A query is compiled exactly when it begins with a source and is well formed. -/
theorem Query.succeeds_compile_iff {q : Query} :
    (∃ s, q.compile registry d = .ok s) ↔
      ∃ name binding js, q.root = .source name binding ∧
        q.WellFormed registry (Plan.bind registry binding name) js := by
  have hcompile : (∃ s, q.compile registry d = .ok s) ↔
      ∃ p, Plan.ofQuery registry q = .ok p ∧ Succeeds (p.select d) := succeeds_bind_iff
  rw [hcompile]
  constructor
  · rintro ⟨p, hp, hselect⟩
    obtain ⟨name, binding, js, hroot, hjoined, hdistinct, rfl⟩ := Plan.ofQuery_eq_ok_iff.mp hp
    obtain ⟨hprojected, hjoins, hrows, hgrouped, hgroups, hordered, hendings⟩ :=
      Plan.succeeds_select_iff.mp hselect
    rw [Plan.succeeds_projected_iff] at hprojected
    rw [Plan.succeeds_joins_iff] at hjoins
    rw [Plan.succeeds_groupPieces_iff] at hgrouped
    rw [Plan.succeeds_orderPieces_iff] at hordered
    rw [Plan.succeeds_fragmentPieces_iff] at hendings
    have hrows := Plan.succeeds_conditionPieces_iff.mp hrows
    have hgroups := Plan.succeeds_conditionPieces_iff.mp hgroups
    simp only [Plan.ofJoins_projection, Plan.ofJoins_bindings] at hprojected
    exact ⟨name, binding, js, hroot,
      { distinct := hdistinct
        joined := hjoined
        selected := fun ts hts => (hprojected ts hts).1
        select := fun ts hts => (hprojected ts hts).2
        on := hjoins
        rows := hrows.1
        rowWords := hrows.2
        grouped := hgrouped
        groups := hgroups.1
        groupWords := hgroups.2
        ordered := hordered
        endings := hendings }⟩
  · rintro ⟨name, binding, js, hroot, h⟩
    refine ⟨_, Plan.ofQuery_eq_ok_iff.mpr ⟨name, binding, js, hroot, h.joined, h.distinct, rfl⟩, ?_⟩
    refine Plan.succeeds_select_iff.mpr ⟨?_, Plan.succeeds_joins_iff.mpr h.on,
      Plan.succeeds_conditionPieces_iff.mpr ⟨h.rows, h.rowWords⟩,
      Plan.succeeds_groupPieces_iff.mpr h.grouped,
      Plan.succeeds_conditionPieces_iff.mpr ⟨h.groups, h.groupWords⟩,
      Plan.succeeds_orderPieces_iff.mpr h.ordered,
      Plan.succeeds_fragmentPieces_iff.mpr h.endings⟩
    rw [Plan.succeeds_projected_iff]
    simp only [Plan.ofJoins_projection, Plan.ofJoins_bindings]
    exact fun ts hts => ⟨h.selected ts hts, h.select ts hts⟩

end RecordMapper
