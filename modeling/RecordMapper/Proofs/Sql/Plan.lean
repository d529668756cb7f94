import RecordMapper.Proofs.Outcome
import RecordMapper.Proofs.Query.Clauses
import RecordMapper.Sql.Plan

/-! # The plan of a query

Only joins can keep a query from having a plan. A derivation says how each of them is bound by what
was bound before it; with its joins, the plan is read off the clauses of each kind. -/

namespace RecordMapper.Plan

open Outcome

variable {registry : Option Registry}

/-! ## Joins -/

/-- The condition of a join: the one that comes from a relationship, and the one that was given. -/
def jointCondition (derived : Term) : Option Term → Term
  | none => derived
  | some t => .connected .and [derived, t]

/-- A join binds a name to a relation under a condition, by what is bound before it. The rules do
not invoke the planner. -/
inductive Introduces (registry : Option Registry) (bindings : List Bound) (binding : String) :
    JoinTarget → Option Term → Bound → Term → Prop where
  | relation (name : String) (on : Term) :
      Introduces registry bindings binding (.relation name) (some on)
        (bind registry binding name) on
  | association {owner relationship : String} {b : Bound} {schema : Descriptor} {known : Registry}
      {joint : Registry.Joint} (on : Option Term) : lookUp bindings owner = some b →
      b.schema = some schema → registry = some known → known.joint schema relationship = .ok joint →
      Introduces registry bindings binding (.association owner relationship) on
        ⟨binding, joint.related.relation, some joint.related⟩
        (jointCondition
          (.binary .eq (.field binding joint.relatedKey) (.field b.name joint.ownerKey)) on)

theorem Introduces.name_eq {bindings : List Bound} {binding : String} {target : JoinTarget}
    {on : Option Term} {joined : Bound} {condition : Term}
    (h : Introduces registry bindings binding target on joined condition) :
    joined.name = binding := by
  cases h <;> rfl

/-- A relationship is followed from a name that is bound to a schema of a registry. -/
theorem follow_eq_ok_iff {bindings : List Bound} {name owner relationship : String}
    {x : Bound × Term} :
    follow registry bindings name owner relationship = .ok x ↔
      ∃ b schema known joint, lookUp bindings owner = some b ∧ b.schema = some schema ∧
        registry = some known ∧ known.joint schema relationship = .ok joint ∧
        x = (⟨name, joint.related.relation, some joint.related⟩,
          .binary .eq (.field name joint.relatedKey) (.field b.name joint.ownerKey)) := by
  unfold follow
  split
  · simp_all
  · rename_i b hb
    split
    · rename_i schema known hschema
      split
      · simp_all
      · rename_i joint hjoint
        simp [hb, hschema, hjoint, eq_comm]
    · rename_i hnone
      simp only [reduceCtorEq, false_iff]
      rintro ⟨c, schema, known, joint, hc, hschema, rfl, -⟩
      obtain rfl := Option.some.inj (hb.symm.trans hc)
      exact hnone schema known hschema rfl

theorem introduce_eq_ok_iff {bindings : List Bound} {binding : String} {target : JoinTarget}
    {on : Option Term} {joined : Bound} {condition : Term} :
    introduce registry bindings binding target on = .ok (joined, condition) ↔
      Introduces registry bindings binding target on joined condition := by
  constructor
  · intro h
    cases target with
    | relation name =>
        cases on with
        | none => simp [introduce] at h
        | some t =>
            obtain ⟨rfl, rfl⟩ : bind registry binding name = joined ∧ t = condition := by
              simpa [introduce] using h
            exact .relation name t
    | association owner relationship =>
        simp only [introduce, bind_eq_ok_iff, pure_eq_ok_iff, Prod.mk.injEq] at h
        obtain ⟨x, hx, rfl, rfl⟩ := h
        obtain ⟨b, schema, known, joint, hb, hschema, hknown, hjoint, rfl⟩ :=
          follow_eq_ok_iff.mp hx
        cases on with
        | none => exact .association none hb hschema hknown hjoint
        | some t => exact .association (some t) hb hschema hknown hjoint
  · intro h
    cases h with
    | relation name on => rfl
    | association _ hb hschema hknown hjoint =>
        obtain rfl := hknown
        cases on <;> simp [introduce, follow, hb, hschema, hjoint, jointCondition]

/-- The joins among clauses, each with what is bound up to it. No clause is a source. -/
inductive Joined (registry : Option Registry) :
    List Bound → List Clause → List PlannedJoin → Prop where
  | nil (bindings : List Bound) : Joined registry bindings [] []
  | join {bindings : List Bound} {target : JoinTarget} {binding : String} {on : Option Term}
      (kind : JoinKind) {joined : Bound} {condition : Term} {cs : List Clause}
      {js : List PlannedJoin} : Introduces registry bindings binding target on joined condition →
      Joined registry (bindings ++ [joined]) cs js →
      Joined registry bindings (.join target binding on kind :: cs)
        (⟨kind, joined, condition, bindings ++ [joined]⟩ :: js)
  | other {bindings : List Bound} {c : Clause} {cs : List Clause} {js : List PlannedJoin} :
      c.isJoin = false → c.isSource = false → Joined registry bindings cs js →
      Joined registry bindings (c :: cs) js

/-- What holds of comparisons of two fields and of the conditions that were given, and is kept when
two conditions are joined, holds of the condition of every join. -/
theorem Joined.forall_condition {P : Term → Prop}
    (hP : ∀ op t u, P t → P u → P (.connected op [t, u]))
    (hfields : ∀ b n c m, P (.binary .eq (.field b n) (.field c m))) {bindings : List Bound}
    {cs : List Clause} {js : List PlannedJoin} (h : Joined registry bindings cs js)
    (hon : ∀ t ∈ cs.filterMap Clause.onTerm?, P t) : ∀ j ∈ js, P j.condition := by
  induction h with
  | nil => simp
  | @join bindings target binding on kind joined condition cs js hintro _ ih =>
      have htail : ∀ t ∈ cs.filterMap Clause.onTerm?, P t := by
        intro t ht
        refine hon t ?_
        cases on <;> simp [List.filterMap_cons, Clause.onTerm?, ht]
      refine List.forall_mem_cons.mpr ⟨?_, ih htail⟩
      cases hintro with
      | relation => exact hon _ (by simp [Clause.onTerm?])
      | association =>
          cases on with
          | none => exact hfields _ _ _ _
          | some t => exact hP _ _ _ (hfields _ _ _ _) (hon t (by simp [Clause.onTerm?]))
  | other hj _ _ ih =>
      refine ih fun t ht => hon t ?_
      rwa [List.filterMap_cons_none (Clause.onTerm?_eq_none hj)]

/-- The names of joins differ from those that are bound before and from each other. -/
def Fresh (bindings : List Bound) (js : List PlannedJoin) : Prop :=
  (∀ j ∈ js, lookUp bindings j.joined.name = none) ∧ (js.map fun j => j.joined.name).Nodup

theorem fresh_nil (bindings : List Bound) : Fresh bindings [] := by simp [Fresh]

theorem lookUp_append_eq_none_iff {bindings : List Bound} {b : Bound} {name : String} :
    lookUp (bindings ++ [b]) name = none ↔ lookUp bindings name = none ∧ b.name ≠ name := by
  simp [lookUp]

theorem fresh_cons_iff {bindings : List Bound} {j : PlannedJoin} {js : List PlannedJoin} :
    Fresh bindings (j :: js) ↔
      lookUp bindings j.joined.name = none ∧ Fresh (bindings ++ [j.joined]) js := by
  simp only [Fresh, List.forall_mem_cons, List.map_cons, List.nodup_cons, List.mem_map,
    lookUp_append_eq_none_iff, not_exists, not_and]
  grind

theorem fresh_append_iff {bindings : List Bound} {js ks : List PlannedJoin} :
    Fresh bindings (js ++ ks) ↔
      Fresh bindings js ∧ Fresh (bindings ++ js.map PlannedJoin.joined) ks := by
  induction js generalizing bindings with
  | nil => simp [fresh_nil]
  | cons j js ih => simp [fresh_cons_iff, ih, and_assoc]

/-- The joins of clauses are those of the first one and those of the others, which come after. -/
theorem joined_cons_iff {bindings : List Bound} {c : Clause} {cs : List Clause}
    {js : List PlannedJoin} :
    Joined registry bindings (c :: cs) js ↔
      ∃ ks ls, Joined registry bindings [c] ks ∧
        Joined registry (bindings ++ ks.map PlannedJoin.joined) cs ls ∧ js = ks ++ ls := by
  constructor
  · intro h
    cases h with
    | join kind hintro hjs => exact ⟨_, _, .join kind hintro (.nil _), hjs, rfl⟩
    | other hj hs hjs => exact ⟨[], _, .other hj hs (.nil _), by simpa using hjs, rfl⟩
  · rintro ⟨ks, ls, hks, hls, rfl⟩
    cases hks with
    | join kind hintro hnil =>
        cases hnil
        exact .join kind hintro hls
    | other hj hs hnil =>
        cases hnil
        exact .other hj hs (by simpa using hls)

/-! ## The other clauses -/

/-- Conditions joined one after the other to the one before. -/
def combineAll (before : Option Term) (filters : List (Connective × Term)) : Option Term :=
  filters.foldl (fun t x => some (combine t x.1 x.2)) before

theorem combineAll_eq_none_iff {filters : List (Connective × Term)} :
    combineAll none filters = none ↔ filters = [] := by
  rcases filters.eq_nil_or_concat with rfl | ⟨fs, f, rfl⟩ <;> simp [combineAll]

/-- What holds of conditions and is kept when two of them are joined holds of all of them joined. -/
theorem forall_combineAll {P : Term → Prop}
    (hP : ∀ op t u, P t → P u → P (.connected op [t, u])) {before : Option Term}
    {filters : List (Connective × Term)} (hb : ∀ t ∈ before, P t) (hf : ∀ f ∈ filters, P f.2) :
    ∀ t ∈ combineAll before filters, P t := by
  induction filters generalizing before with
  | nil => exact hb
  | cons f filters ih =>
      obtain ⟨hhead, htail⟩ := List.forall_mem_cons.mp hf
      refine ih ?_ htail
      rintro t ⟨⟩
      cases before with
      | none => exact hhead
      | some b => exact hP f.1 b f.2 (hb b rfl) hhead

/-- A plan with more clauses, whose joins are given. -/
def extend (p : Plan) (cs : List Clause) (js : List PlannedJoin) : Plan where
  source := p.source
  bindings := p.bindings ++ js.map PlannedJoin.joined
  joins := p.joins ++ js
  condition := combineAll p.condition (cs.filterMap Clause.rowFilter?)
  groupCondition := combineAll p.groupCondition (cs.filterMap Clause.groupFilter?)
  projection := (cs.filterMap Clause.selected?).getLast?.or p.projection
  distinct := p.distinct || cs.any Clause.isDistinct
  groupBy := p.groupBy ++ cs.flatMap Clause.grouped
  orderBy := p.orderBy ++ cs.flatMap Clause.ordered
  limit := (cs.filterMap Clause.limit?).getLast?.or p.limit
  offset := (cs.filterMap Clause.offset?).getLast?.or p.offset
  fragments := p.fragments ++ cs.filterMap Clause.ending?

@[simp] theorem extend_nil (p : Plan) : p.extend [] [] = p := by
  simp [extend, combineAll]

theorem extend_extend (p : Plan) (cs ds : List Clause) (js ks : List PlannedJoin) :
    (p.extend cs js).extend ds ks = p.extend (cs ++ ds) (js ++ ks) := by
  simp [extend, combineAll, Bool.or_assoc, Option.or_assoc]

/-- A clause that neither joins nor is a source can be added to any plan. -/
theorem add_other {p : Plan} {c : Clause} (hj : c.isJoin = false) (hs : c.isSource = false) :
    p.add registry c = .ok (p.extend [c] []) := by
  cases c with
  | source => simp [Clause.isSource] at hs
  | join => simp [Clause.isJoin] at hj
  | filter t onGroups op =>
      cases onGroups <;>
        simp [add, extend, combineAll, List.filterMap_cons, Clause.rowFilter?, Clause.groupFilter?,
          Clause.selected?, Clause.isDistinct, Clause.grouped, Clause.ordered, Clause.limit?,
          Clause.offset?, Clause.ending?]
  | _ =>
      simp [add, extend, combineAll, List.filterMap_cons, Clause.rowFilter?, Clause.groupFilter?,
        Clause.selected?, Clause.isDistinct, Clause.grouped, Clause.ordered, Clause.limit?,
        Clause.offset?, Clause.ending?]

/-- The plan with one more join. -/
theorem extend_join (p : Plan) (target : JoinTarget) (binding : String) (on : Option Term)
    (kind : JoinKind) (j : PlannedJoin) :
    p.extend [.join target binding on kind] [j] =
      { p with bindings := p.bindings ++ [j.joined], joins := p.joins ++ [j] } := by
  simp [extend, combineAll, List.filterMap_cons, Clause.rowFilter?, Clause.groupFilter?,
    Clause.selected?, Clause.isDistinct, Clause.grouped, Clause.ordered, Clause.limit?,
    Clause.offset?, Clause.ending?]

/-- A join can be added exactly when its name is free and something is introduced under it. -/
theorem addJoin_eq_ok_iff {p p' : Plan} {target : JoinTarget} {binding : String}
    {on : Option Term} {kind : JoinKind} :
    p.addJoin registry target binding on kind = .ok p' ↔
      lookUp p.bindings binding = none ∧
        ∃ joined condition, Introduces registry p.bindings binding target on joined condition ∧
          p' = p.extend [.join target binding on kind]
            [⟨kind, joined, condition, p.bindings ++ [joined]⟩] := by
  simp only [addJoin, extend_join, ← introduce_eq_ok_iff]
  cases hfree : lookUp p.bindings binding with
  | some b => simp
  | none => simp [@eq_comm _ p']

/-- A clause is added to a plan exactly when it is no source and, if it is a join, it can be bound
by what was bound before. -/
theorem add_eq_ok_iff {p p' : Plan} {c : Clause} :
    p.add registry c = .ok p' ↔
      ∃ js, Joined registry p.bindings [c] js ∧ Fresh p.bindings js ∧ p' = p.extend [c] js := by
  constructor
  · intro hadd
    cases hj : c.isJoin with
    | true =>
        obtain ⟨target, binding, on, kind, rfl⟩ : ∃ t b o k, c = .join t b o k := by
          cases c <;> simp_all [Clause.isJoin]
        obtain ⟨hfree, joined, condition, hintro, rfl⟩ := addJoin_eq_ok_iff.mp hadd
        refine ⟨_, .join kind hintro (.nil _), fresh_cons_iff.mpr ⟨?_, fresh_nil _⟩, rfl⟩
        rwa [hintro.name_eq]
    | false =>
        have hs : c.isSource = false := by
          cases c <;> simp_all [Clause.isSource, add]
        rw [add_other hj hs] at hadd
        exact ⟨[], .other hj hs (.nil _), fresh_nil _, (Except.ok.inj hadd).symm⟩
  · rintro ⟨js, hjs, hfresh, rfl⟩
    cases hjs with
    | join kind hintro hnil =>
        cases hnil
        obtain ⟨hfree, -⟩ := fresh_cons_iff.mp hfresh
        rw [hintro.name_eq] at hfree
        exact addJoin_eq_ok_iff.mpr ⟨hfree, _, _, hintro, rfl⟩
    | other hj hs hnil =>
        cases hnil
        exact add_other hj hs

/-- Clauses are added to a plan exactly when their joins can be bound one after the other. -/
theorem foldlM_add_eq_ok_iff {p p' : Plan} {cs : List Clause} :
    cs.foldlM (add registry) p = .ok p' ↔
      ∃ js, Joined registry p.bindings cs js ∧ Fresh p.bindings js ∧ p' = p.extend cs js := by
  induction cs generalizing p with
  | nil =>
      rw [List.foldlM_nil, pure_eq_ok_iff]
      constructor
      · rintro rfl
        exact ⟨[], .nil _, fresh_nil _, (extend_nil p).symm⟩
      · rintro ⟨js, hjs, -, rfl⟩
        cases hjs
        exact (extend_nil p).symm
  | cons c cs ih =>
      rw [List.foldlM_cons, bind_eq_ok_iff]
      constructor
      -- the clauses after the first see its join, in their bindings and among the names in use
      · rintro ⟨p₁, hadd, hrest⟩
        obtain ⟨ks, hks, hfresh, rfl⟩ := add_eq_ok_iff.mp hadd
        obtain ⟨ls, hls, hfresh', rfl⟩ := ih.mp hrest
        exact ⟨ks ++ ls, joined_cons_iff.mpr ⟨ks, ls, hks, hls, rfl⟩,
          fresh_append_iff.mpr ⟨hfresh, hfresh'⟩, extend_extend p [c] cs ks ls⟩
      · rintro ⟨js, hjs, hfresh, rfl⟩
        obtain ⟨ks, ls, hks, hls, rfl⟩ := joined_cons_iff.mp hjs
        obtain ⟨hfresh, hfresh'⟩ := fresh_append_iff.mp hfresh
        exact ⟨p.extend [c] ks, add_eq_ok_iff.mpr ⟨ks, hks, hfresh, rfl⟩,
          ih.mpr ⟨ls, hls, hfresh', (extend_extend p [c] cs ks ls).symm⟩⟩

/-! ## The plan -/

/-- The plan of a query of a source, whose joins are given. -/
def ofJoins (source : Bound) (q : Query) (js : List PlannedJoin) : Plan :=
  (ofSource source).extend q.rest js

section

variable (source : Bound) (q : Query) (js : List PlannedJoin)

@[simp] theorem ofJoins_source : (ofJoins source q js).source = source := rfl

@[simp] theorem ofJoins_bindings :
    (ofJoins source q js).bindings = source :: js.map PlannedJoin.joined := rfl

@[simp] theorem ofJoins_joins : (ofJoins source q js).joins = js := rfl

@[simp] theorem ofJoins_condition :
    (ofJoins source q js).condition = combineAll none q.rowFilters := rfl

@[simp] theorem ofJoins_groupCondition :
    (ofJoins source q js).groupCondition = combineAll none q.groupFilters := rfl

@[simp] theorem ofJoins_projection : (ofJoins source q js).projection = q.lastSelect := by
  simp [ofJoins, ofSource, extend, Query.lastSelect]

@[simp] theorem ofJoins_groupBy : (ofJoins source q js).groupBy = q.grouped := rfl

@[simp] theorem ofJoins_orderBy : (ofJoins source q js).orderBy = q.ordered := rfl

@[simp] theorem ofJoins_limit : (ofJoins source q js).limit = q.lastLimit := by
  simp [ofJoins, ofSource, extend, Query.lastLimit]

@[simp] theorem ofJoins_offset : (ofJoins source q js).offset = q.lastOffset := by
  simp [ofJoins, ofSource, extend, Query.lastOffset]

@[simp] theorem ofJoins_fragments : (ofJoins source q js).fragments = q.endings := rfl

end

/-- Names that are joined to a source differ from its name and from each other. -/
theorem fresh_singleton_iff {source : Bound} {js : List PlannedJoin} :
    Fresh [source] js ↔ (source.name :: js.map fun j => j.joined.name).Nodup := by
  simp only [Fresh, lookUp, List.find?_cons, List.find?_nil, List.nodup_cons, List.mem_map,
    not_exists, not_and]
  grind

/-- A query has a plan exactly when it begins with a source, its joins can be bound one after the
other and no name is bound twice. -/
theorem ofQuery_eq_ok_iff {q : Query} {p : Plan} :
    ofQuery registry q = .ok p ↔
      ∃ name binding js, q.root = .source name binding ∧
        Joined registry [bind registry binding name] q.rest js ∧
        (binding :: js.map fun j => j.joined.name).Nodup ∧
        p = ofJoins (bind registry binding name) q js := by
  unfold ofQuery
  cases hroot : q.root with
  | source name binding =>
      simp only [foldlM_add_eq_ok_iff]
      constructor
      · rintro ⟨js, hjs, hfresh, rfl⟩
        exact ⟨name, binding, js, rfl, hjs, fresh_singleton_iff.mp hfresh, rfl⟩
      · rintro ⟨n, b, js, heq, hjs, hfresh, rfl⟩
        cases heq
        exact ⟨js, hjs, fresh_singleton_iff.mpr hfresh, rfl⟩
  | _ => simp

end RecordMapper.Plan
