import Mathlib.Data.Option.Basic
import RecordMapper.Proofs.Sql.Alike
import RecordMapper.Proofs.Sql.Plan

/-! # Plans that are alike

Queries that differ in what they bind only have no plan for the same reason, or their plans differ
in what they bind only. -/

namespace RecordMapper

open Outcome

variable {R : Parameter → Parameter → Prop} {S : Value → Value → Prop}
variable {E : CompileError → CompileError → Prop} {registry : Option Registry}

/-- Two joins whose conditions differ in what they bind only. -/
structure PlannedJoin.Alike (R : Parameter → Parameter → Prop) (S : Value → Value → Prop)
    (j k : PlannedJoin) : Prop where
  kind : j.kind = k.kind
  joined : j.joined = k.joined
  condition : Term.Revalued R S j.condition k.condition
  visible : j.visible = k.visible

/-- Two plans that differ in what they bind only. -/
structure Plan.Alike (R : Parameter → Parameter → Prop) (S : Value → Value → Prop)
    (p p' : Plan) : Prop where
  source : p.source = p'.source
  bindings : p.bindings = p'.bindings
  joins : List.Forall₂ (PlannedJoin.Alike R S) p.joins p'.joins
  condition : Option.Rel (Term.Revalued R S) p.condition p'.condition
  groupCondition : Option.Rel (Term.Revalued R S) p.groupCondition p'.groupCondition
  projection : Option.Rel (List.Forall₂ (Term.Revalued R S)) p.projection p'.projection
  distinct : p.distinct = p'.distinct
  groupBy : List.Forall₂ (Term.Revalued R S) p.groupBy p'.groupBy
  orderBy : List.Forall₂ (fun x y => Term.Revalued R S x.1 y.1 ∧ x.2 = y.2) p.orderBy p'.orderBy
  limit : Option.Rel (fun m n => R (.value (.int m)) (.value (.int n))) p.limit p'.limit
  offset : Option.Rel (fun m n => R (.value (.int m)) (.value (.int n))) p.offset p'.offset
  fragments : List.Forall₂ (fun f g => f.1 = g.1 ∧
    List.Forall₂ (fun t u => Term.Revalued R S t.inPlace u.inPlace) f.2 g.2)
    p.fragments p'.fragments

namespace Plan

theorem alike_combine {before before' : Option Term} {t t' : Term} (op : Connective)
    (hb : Option.Rel (Term.Revalued R S) before before') (ht : Term.Revalued R S t t') :
    Term.Revalued R S (combine before op t) (combine before' op t') := by
  cases hb with
  | none => exact ht
  | some hb => exact .connected op (.cons hb (.cons ht .nil))

/-- A condition that comes from a relationship binds nothing. -/
theorem revalued_follow {bindings : List Bound} {name binding relationship : String}
    {joined : Bound} {t : Term}
    (h : follow registry bindings name binding relationship = .ok (joined, t)) :
    Term.Revalued R S t t := by
  obtain ⟨b, schema, known, joint, -, -, -, -, heq⟩ := follow_eq_ok_iff.mp h
  obtain ⟨-, rfl⟩ := Prod.mk.inj heq
  exact .binary .eq (.field _ _) (.field _ _)

theorem agree_introduce (hE : ∀ e, E e e) (bindings : List Bound) (binding : String)
    (target : JoinTarget) {on on' : Option Term} (hon : Option.Rel (Term.Revalued R S) on on') :
    Agree E (fun x y => x.1 = y.1 ∧ Term.Revalued R S x.2 y.2)
      (introduce registry bindings binding target on)
      (introduce registry bindings binding target on') := by
  cases target with
  | relation name =>
      cases hon with
      | none => exact .error (hE _)
      | some ht => exact .ok ⟨rfl, ht⟩
  | association owner relationship =>
      rw [introduce, introduce]
      refine Agree.bind (P := fun x y => x = y ∧ Term.Revalued R S x.2 x.2)
        (.refl hE fun x hx => ⟨rfl, revalued_follow hx⟩) ?_
      rintro ⟨joined, derived⟩ _ ⟨rfl, hderived⟩
      cases hon with
      | none => exact .ok ⟨rfl, hderived⟩
      | some ht => exact .ok ⟨rfl, .connected .and (.cons hderived (.cons ht .nil))⟩

theorem agree_addJoin (hE : ∀ e, E e e) {p p' : Plan} (hp : p.Alike R S p') (target : JoinTarget)
    (binding : String) {on on' : Option Term} (hon : Option.Rel (Term.Revalued R S) on on')
    (kind : JoinKind) :
    Agree E (Alike R S) (p.addJoin registry target binding on kind)
      (p'.addJoin registry target binding on' kind) := by
  rw [addJoin, addJoin, hp.bindings]
  split
  · exact .error (hE _)
  · refine (agree_introduce hE p'.bindings binding target hon).bind ?_
    rintro ⟨joined, t⟩ ⟨_, t'⟩ ⟨rfl, ht⟩
    exact .ok { hp with
      bindings := rfl
      joins := List.rel_append hp.joins (.cons ⟨rfl, rfl, ht, rfl⟩ .nil) }

/-- A clause is added to plans that are alike. -/
theorem agree_add (hE : ∀ e, E e e) {p p' : Plan} {c c' : Clause} (hp : p.Alike R S p')
    (hc : c.Revalued R S c') : Agree E (Alike R S) (p.add registry c) (p'.add registry c') := by
  cases hc with
  | source => exact .error (hE _)
  | join target binding kind hon => exact agree_addJoin hE hp target binding hon kind
  | filter onGroups op ht =>
      cases onGroups with
      | false => exact .ok { hp with condition := .some (alike_combine op hp.condition ht) }
      | true =>
          exact .ok { hp with groupCondition := .some (alike_combine op hp.groupCondition ht) }
  | select hts => exact .ok { hp with projection := .some hts }
  | distinct => exact .ok { hp with distinct := rfl }
  | groupBy hts => exact .ok { hp with groupBy := List.rel_append hp.groupBy hts }
  | orderBy hxs => exact .ok { hp with orderBy := List.rel_append hp.orderBy hxs }
  | limit hr => exact .ok { hp with limit := .some hr }
  | offset hr => exact .ok { hp with offset := .some hr }
  | fragment raw hts =>
      exact .ok { hp with fragments := List.rel_append hp.fragments (.cons ⟨rfl, hts⟩ .nil) }

theorem alike_ofSource (source : Bound) : (ofSource source).Alike R S (ofSource source) where
  source := rfl
  bindings := rfl
  joins := .nil
  condition := .none
  groupCondition := .none
  projection := .none
  distinct := rfl
  groupBy := .nil
  orderBy := .nil
  limit := .none
  offset := .none
  fragments := .nil

/-- Queries that differ in what they bind only have alike plans. -/
theorem agree_ofQuery (hE : ∀ e, E e e) {q q' : Query} (h : q.Revalued R S q') :
    Agree E (Alike R S) (ofQuery registry q) (ofQuery registry q') := by
  obtain ⟨root, rest⟩ := q
  obtain ⟨root', rest'⟩ := q'
  obtain ⟨hroot, hrest⟩ := h
  cases hroot with
  | source name binding =>
      exact Agree.foldlM (C := Clause.Revalued R S) (fun _ _ _ _ hp hc => agree_add hE hp hc) hrest
        (alike_ofSource _)
  | _ => exact .error (hE _)

end Plan

end RecordMapper
