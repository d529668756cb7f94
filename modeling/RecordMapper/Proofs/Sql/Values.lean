import Mathlib
import RecordMapper.Proofs.Sql.AlikePlans
import RecordMapper.Proofs.Sql.Parts

/-! # Values and the text of a statement

Values do not get into the text. Requests that differ in what they bind only fail with the same
error, or their statements have the same text and columns and differ in what they bind only. -/

namespace RecordMapper

open Outcome

variable {R : Parameter → Parameter → Prop} {S : Value → Value → Prop}
variable {E : CompileError → CompileError → Prop} {registry : Option Registry} {d : Dialect}

/-! ## Columns -/

namespace Column

/-- Two columns of one name that differ in what they bind only. -/
structure Alike (R : Parameter → Parameter → Prop) (c c' : Column) : Prop where
  term : Alikes R c.term c'.term
  name : c.name = c'.name
  isNamed : c.isNamed = c'.isNamed

theorem Alike.pieces {c c' : Column} (h : c.Alike R c') : Alikes R c.pieces c'.pieces := by
  rw [Column.pieces, Column.pieces, h.name, h.isNamed]
  split
  · exact h.term.append (.word _ (.cons (.name _) .nil))
  · exact h.term

theorem termOf_of_literal {t : Term} {p : Parameter} (h : t.literal? = some p) :
    termOf t = t := by
  cases t <;> simp_all [Term.literal?, termOf]

theorem revalued_termOf {t u : Term} (h : t.Revalued R S u) :
    (termOf t).Revalued R S (termOf u) := by
  cases h with
  | named name h => exact h
  | literal hp hq hnull hr =>
      rw [termOf_of_literal hp, termOf_of_literal hq]
      exact .literal hp hq hnull hr
  | field b n => exact .field b n
  | binary op hl hr => exact .binary op hl hr
  | connected op hts => exact .connected op hts
  | not ht => exact .not ht
  | isNull negated ht => exact .isNull negated ht
  | inList negated ht hts => exact .inList negated ht hts
  | aggregateRows f distinct => exact .aggregateRows f distinct
  | aggregate f distinct ht => exact .aggregate f distinct ht
  | fragment raw hts => exact .fragment raw hts
  | order t u d => exact .order t u d
  | pair t u word => exact .pair t u word
  | plain hv => exact .plain hv

theorem nameOf_of_literal {t : Term} {p : Parameter} (h : t.literal? = some p)
    (used : List String) (position : Nat) :
    nameOf used position t = (s!"column_{position}", true) := by
  cases t <;> simp_all [Term.literal?, nameOf, defaultName]

theorem defaultName_of_literal {t : Term} {p : Parameter} (h : t.literal? = some p)
    (f : AggregateFunction) (distinct : Bool) (position : Nat) :
    defaultName position (.aggregate f (some t) distinct) = f.word := by
  cases t <;> simp_all [Term.literal?, defaultName]

/-- The name of a column does not depend on what is bound. -/
theorem nameOf_eq {t u : Term} (h : t.Revalued R S u) (used : List String) (position : Nat) :
    nameOf used position t = nameOf used position u := by
  cases h with
  | literal hp hq => rw [nameOf_of_literal hp, nameOf_of_literal hq]
  | aggregate f distinct ht =>
      cases ht with
      | literal hp hq => simp [nameOf, defaultName_of_literal hp, defaultName_of_literal hq]
      | _ => rfl
  | _ => rfl

end Column

section

variable (hE : ∀ e, E e e)
  (hS : ∀ v w, S v w → E (.unknownTerm v.className) (.unknownTerm w.className))

include hE hS

theorem Column.agree_ofTerm (s : Scope) (used : List String) (position : Nat) {t u : Term}
    (h : t.Revalued R S u) :
    Agree E (Column.Alike R) (ofTerm d s used position t) (ofTerm d s used position u) := by
  rw [ofTerm, ofTerm, nameOf_eq h]
  refine (Term.agree_pieces hE hS false (revalued_termOf h)).bind fun ps qs hps => ?_
  dsimp only
  split
  · exact .error (hE _)
  · exact .ok ⟨hps, rfl, rfl⟩

theorem Column.agree_ofTerms (s : Scope) (used : List String) (position : Nat) {ts us : List Term}
    (h : List.Forall₂ (Term.Revalued R S) ts us) :
    Agree E (List.Forall₂ (Column.Alike R)) (ofTerms d s used position ts)
      (ofTerms d s used position us) := by
  induction h generalizing used position with
  | nil => exact .ok .nil
  | cons ht _ ih =>
      rw [ofTerms, ofTerms]
      refine (agree_ofTerm hE hS s used position ht).bind fun c c' hc => ?_
      rw [hc.name]
      exact (ih _ _).bind fun _ _ hcs => .ok (.cons hc hcs)

end

/-! ## Parts of a statement -/

/-- What is put out under the same names, differing in what is bound only. -/
structure Projection.Alike (R : Parameter → Parameter → Prop) (o o' : Projection) : Prop where
  pieces : Alikes R o.pieces o'.pieces
  columns : o.columns = o'.columns
  source : o.source = o'.source

theorem alikes_record (b : Bound) : Alikes R (Plan.record b).pieces (Plan.record b).pieces := by
  refine .refl ?_
  have h := (item_record (d := .generic) b "(" (by simp [Piece.vocabulary])).parameters
  simpa [Piece.parameters] using h

theorem alikes_clausePieces (keyword separator : String) {pss qss : List (List Piece)}
    (h : List.Forall₂ (Alikes R) pss qss) :
    Alikes R (Plan.clausePieces keyword separator pss)
      (Plan.clausePieces keyword separator qss) := by
  cases h with
  | nil => exact .nil
  | cons hp hps => exact (Alikes.separated separator (.cons hp hps)).word keyword

theorem alikes_countPieces (keyword : String) {m n : Option Int}
    (h : Option.Rel (fun m n => R (.value (.int m)) (.value (.int n))) m n) :
    Alikes R (Plan.countPieces keyword m) (Plan.countPieces keyword n) := by
  cases h with
  | none => exact .nil
  | some hr => exact .cons (.word keyword) (.cons (.slot hr) .nil)

theorem alikes_flatten {pss qss : List (List Piece)} (h : List.Forall₂ (Alikes R) pss qss) :
    Alikes R pss.flatten qss.flatten := by
  induction h with
  | nil => exact .nil
  | cons hp _ ih => exact hp.append ih

theorem alikes_aliased (relation binding : String) :
    Alikes R (Piece.aliased relation binding) (Piece.aliased relation binding) := .refl rfl

theorem isEmpty_eq_of_forall₂ {α β : Type} {P : α → β → Prop} {xs : List α} {ys : List β}
    (h : List.Forall₂ P xs ys) : xs.isEmpty = ys.isEmpty := by
  cases h <;> rfl

theorem isNone_eq_of_rel {α β : Type} {P : α → β → Prop} {x : Option α} {y : Option β}
    (h : Option.Rel P x y) : x.isNone = y.isNone := by
  cases h <;> rfl

namespace Plan

variable {p p' : Plan}

theorem Alike.isBulk_eq (h : p.Alike R S p') : p.isBulk = p'.isBulk := by
  simp only [isBulk, isEmpty_eq_of_forall₂ h.joins, isNone_eq_of_rel h.projection,
    isEmpty_eq_of_forall₂ h.groupBy, isNone_eq_of_rel h.groupCondition,
    isEmpty_eq_of_forall₂ h.orderBy, isNone_eq_of_rel h.limit, isNone_eq_of_rel h.offset,
    h.distinct, isEmpty_eq_of_forall₂ h.fragments]

theorem agree_ofBulk (hE : ∀ e, E e e) {q q' : Query} (h : q.Revalued R S q')
    (operation : BulkOperation) :
    Agree E (Alike R S) (ofBulk registry q operation) (ofBulk registry q' operation) := by
  refine (agree_ofQuery hE h).bind fun p p' hp => ?_
  rw [hp.isBulk_eq]
  split
  · exact .ok hp
  · exact .error (hE _)

/-- A new value has the pieces of what stands in its place. -/
theorem assignment_eq (p : Plan) (x : String × Term) :
    p.assignment d x = (do
      p.source.checkField x.1
      let value ← x.2.inPlace.pieces d ⟨p.bindings, .updateAll⟩ false
      return .name x.1 :: .word " = " :: value) := by
  rw [assignment]
  split
  · rename_i bound hbound
    rw [Term.inPlace_of_some hbound, Term.pieces_toTerm]
    rfl
  · rename_i hnone
    rw [Term.inPlace_of_none hnone]

section

variable (hE : ∀ e, E e e)
  (hS : ∀ v w, S v w → E (.unknownTerm v.className) (.unknownTerm w.className))

include hE hS

theorem agree_joinPieces {j k : PlannedJoin} (h : j.Alike R S k) :
    Agree E (Alikes R) (joinPieces d j) (joinPieces d k) := by
  rw [joinPieces, joinPieces, h.kind, h.joined, h.visible]
  refine (Term.agree_pieces hE hS false h.condition).bind fun ps qs hps => .ok ?_
  exact ((alikes_aliased _ _).word _).append (.word _ hps)

theorem agree_conditionPieces (s : Scope) (keyword : String) {t u : Option Term}
    (h : Option.Rel (Term.Revalued R S) t u) :
    Agree E (Alikes R) (conditionPieces d s keyword t) (conditionPieces d s keyword u) := by
  cases h with
  | none => exact .ok .nil
  | some h => exact (Term.agree_pieces hE hS false h).bind fun _ _ hps => .ok (.word keyword hps)

variable (hp : p.Alike R S p')

include hp

theorem agree_projected : Agree E (Projection.Alike R) (p.projected d) (p'.projected d) := by
  unfold projected
  rw [hp.source, hp.bindings]
  have hselected := hp.projection
  generalize p.projection = selected at hselected ⊢
  generalize p'.projection = selected' at hselected ⊢
  cases hselected with
  | none => exact .ok ⟨alikes_record _, rfl, rfl⟩
  | some hts =>
      cases hts with
      | nil => exact .error (hE _)
      | cons ht hts =>
          refine (Column.agree_ofTerms hE hS _ [] 1 (.cons ht hts)).bind fun cs cs' hcs => .ok ?_
          refine ⟨Alikes.separated ", " ?_, ?_, rfl⟩
          · rw [List.forall₂_map_left_iff, List.forall₂_map_right_iff]
            exact hcs.imp fun _ _ h => h.pieces
          · rw [← List.forall₂_eq_eq_eq, List.forall₂_map_left_iff, List.forall₂_map_right_iff]
            exact hcs.imp fun _ _ h => h.name

theorem agree_wherePieces : Agree E (Alikes R) (p.wherePieces d) (p'.wherePieces d) := by
  rw [wherePieces, wherePieces, hp.bindings]
  exact agree_conditionPieces hE hS _ _ hp.condition

theorem agree_havingPieces : Agree E (Alikes R) (p.havingPieces d) (p'.havingPieces d) := by
  rw [havingPieces, havingPieces, hp.bindings]
  exact agree_conditionPieces hE hS _ _ hp.groupCondition

theorem agree_groupPieces : Agree E (Alikes R) (p.groupPieces d) (p'.groupPieces d) := by
  rw [groupPieces, groupPieces, hp.bindings]
  exact (Term.agree_piecesOfAll hE hS false hp.groupBy).bind fun _ _ hpss =>
    .ok (alikes_clausePieces _ _ hpss)

theorem agree_orderPieces : Agree E (Alikes R) (p.orderPieces d) (p'.orderPieces d) := by
  rw [orderPieces, orderPieces, hp.bindings]
  have hts : List.Forall₂ (Term.Revalued R S) (p.orderBy.map Prod.fst)
      (p'.orderBy.map Prod.fst) := by
    rw [List.forall₂_map_left_iff, List.forall₂_map_right_iff]
    exact hp.orderBy.imp fun _ _ h => h.1
  have hds : p.orderBy.map Prod.snd = p'.orderBy.map Prod.snd := by
    rw [← List.forall₂_eq_eq_eq, List.forall₂_map_left_iff, List.forall₂_map_right_iff]
    exact hp.orderBy.imp fun _ _ h => h.2
  rw [hds]
  refine (Term.agree_piecesOfAll hE hS false hts).bind fun pss qss hpss => .ok ?_
  refine alikes_clausePieces _ _ ?_
  generalize p'.orderBy.map Prod.snd = directions
  clear hds
  induction hpss generalizing directions with
  | nil => exact .nil
  | cons hps _ ih =>
      cases directions with
      | nil => exact .nil
      | cons direction directions => exact .cons (hps.append (.word _ .nil)) (ih directions)

theorem agree_fragmentPieces : Agree E (Alikes R) (p.fragmentPieces d) (p'.fragmentPieces d) := by
  rw [fragmentPieces, fragmentPieces, hp.bindings]
  have hts : List.Forall₂ (Term.Revalued R S) (p.fragments.map fun f => .fragment f.1 f.2)
      (p'.fragments.map fun f => .fragment f.1 f.2) := by
    rw [List.forall₂_map_left_iff, List.forall₂_map_right_iff]
    refine hp.fragments.imp ?_
    rintro ⟨raw, ts⟩ ⟨_, us⟩ ⟨rfl, hts⟩
    exact .fragment raw hts
  refine (Term.agree_piecesOfAll hE hS false hts).bind fun pss qss hpss => .ok ?_
  rw [List.flatMap_def, List.flatMap_def]
  refine alikes_flatten ?_
  rw [List.forall₂_map_left_iff, List.forall₂_map_right_iff]
  exact hpss.imp fun _ _ h => h.word " "

theorem agree_selectPieces {o o' : Projection} (ho : o.Alike R o') :
    Agree E (Alikes R) (p.selectPieces d o) (p'.selectPieces d o') := by
  rw [selectPieces, selectPieces, hp.source, hp.distinct]
  refine (Agree.mapM hp.joins fun j k => agree_joinPieces hE hS).bind fun _ _ hjoins => ?_
  refine (agree_wherePieces hE hS hp).bind fun _ _ hconditions => ?_
  refine (agree_groupPieces hE hS hp).bind fun _ _ hgroups => ?_
  refine (agree_havingPieces hE hS hp).bind fun _ _ hhaving => ?_
  refine (agree_orderPieces hE hS hp).bind fun _ _ horder => ?_
  refine (agree_fragmentPieces hE hS hp).bind fun _ _ hfragments => .ok ?_
  have hfrom := (alikes_aliased (R := R) p'.source.relation p'.source.name).word " FROM "
  have hlimit := alikes_countPieces " LIMIT " hp.limit
  have hoffset := alikes_countPieces " OFFSET " hp.offset
  exact (((((((((ho.pieces.word _).append hfrom).append (alikes_flatten hjoins)).append
    hconditions).append hgroups).append hhaving).append horder).append hlimit).append
    hoffset).append hfragments

theorem agree_deleteAllPieces :
    Agree E (Alikes R) (p.deleteAllPieces d) (p'.deleteAllPieces d) := by
  rw [deleteAllPieces, deleteAllPieces, hp.source]
  refine (agree_wherePieces hE hS hp).bind fun _ _ hconditions => .ok ?_
  exact (((alikes_aliased _ _).word _).append hconditions).append (.word _ .nil)

theorem agree_assignment {x y : String × Term}
    (h : x.1 = y.1 ∧ x.2.inPlace.Revalued R S y.2.inPlace) :
    Agree E (Alikes R) (p.assignment d x) (p'.assignment d y) := by
  rw [assignment_eq, assignment_eq, hp.source, hp.bindings, h.1]
  refine (Agree.refl (R := fun _ _ => True) hE fun _ _ => trivial).bind fun _ _ _ => ?_
  refine (Term.agree_pieces hE hS false h.2).bind fun _ _ hps => .ok ?_
  exact .cons (.name _) (Alikes.word _ hps)

theorem agree_updateAllPieces {values values' : Row Term}
    (h : List.Forall₂ (fun x y => x.1 = y.1 ∧ x.2.inPlace.Revalued R S y.2.inPlace)
      values values') :
    Agree E (Alikes R) (p.updateAllPieces d values) (p'.updateAllPieces d values') := by
  rw [updateAllPieces, updateAllPieces, hp.source, isEmpty_eq_of_forall₂ h]
  split
  · exact .error (hE _)
  · refine (Agree.mapM h fun x y => agree_assignment hE hS hp).bind fun _ _ hassigned => ?_
    refine (agree_wherePieces hE hS hp).bind fun _ _ hconditions => .ok ?_
    have hset := Alikes.word " SET " (Alikes.separated ", " hassigned)
    exact ((((alikes_aliased _ _).word _).append hset).append hconditions).append (.word _ .nil)

end

end Plan

/-! ## Statements -/

/-- Two statements with one text that differ in what they bind only. -/
structure Statement.Alike (R : Parameter → Parameter → Prop) (s s' : Statement) : Prop where
  text : s.text = s'.text
  columns : s.columns = s'.columns
  source : s.source = s'.source
  parameters : List.Forall₂ R s.parameters s'.parameters

theorem Statement.alike_ofPieces {ps qs : List Piece} (h : Alikes R ps qs) (columns : List String)
    (source : Option String) :
    (ofPieces d ps columns source).Alike R (ofPieces d qs columns source) :=
  ⟨congrArg String.ofList (h.render_eq d 0), rfl, rfl, h.parameters⟩

namespace Request

/-- Two requests that differ in what they bind only. -/
inductive Revalued (R : Parameter → Parameter → Prop) (S : Value → Value → Prop) :
    Request → Request → Prop where
  | select : Revalued R S .select .select
  | deleteAll : Revalued R S .deleteAll .deleteAll
  | updateAll {values values' : Row Term} :
      List.Forall₂ (fun x y => x.1 = y.1 ∧ x.2.inPlace.Revalued R S y.2.inPlace) values values' →
      Revalued R S (.updateAll values) (.updateAll values')

variable {q q' : Query} {r r' : Request}

/-- Requests that differ in what they bind only are refused alike or have alike statements. -/
theorem agree_statement (hE : ∀ e, E e e)
    (hS : ∀ v w, S v w → E (.unknownTerm v.className) (.unknownTerm w.className))
    (hq : q.Revalued R S q') (hr : r.Revalued R S r') :
    Agree E (Statement.Alike R) (r.statement registry d q) (r'.statement registry d q') := by
  cases hr with
  | select =>
      refine (Plan.agree_ofQuery hE hq).bind fun p p' hp => ?_
      refine (Plan.agree_projected hE hS hp).bind fun o o' ho => ?_
      rw [ho.columns, ho.source]
      exact (Plan.agree_selectPieces hE hS hp ho).bind fun _ _ hps =>
        .ok (Statement.alike_ofPieces hps _ _)
  | deleteAll =>
      refine (Plan.agree_ofBulk hE hq .deleteAll).bind fun p p' hp => ?_
      exact (Plan.agree_deleteAllPieces hE hS hp).bind fun _ _ hps =>
        .ok (Statement.alike_ofPieces hps _ _)
  | updateAll hvalues =>
      refine (Plan.agree_ofBulk hE hq .updateAll).bind fun p p' hp => ?_
      exact (Plan.agree_updateAllPieces hE hS hp hvalues).bind fun _ _ hps =>
        .ok (Statement.alike_ofPieces hps _ _)

/-- Values do not get into the text of a statement. Requests that differ in what they bind only
fail with the same error, or have statements of one text, one list of columns and one source, which
bind related values at every place: each of them the values of its own query, in order. -/
theorem statement_revalued (hq : q.Revalued R Eq q') (hr : r.Revalued R Eq r') :
    (∃ e, r.statement registry d q = .error e ∧ r'.statement registry d q' = .error e) ∨
      ∃ s s', r.statement registry d q = .ok s ∧ r'.statement registry d q' = .ok s' ∧
        s.text = s'.text ∧ s.columns = s'.columns ∧ s.source = s'.source ∧
        List.Forall₂ R s.parameters s'.parameters ∧
        s.parameters = (r.terms q).flatMap Term.bound ∧
        s'.parameters = (r'.terms q').flatMap Term.bound := by
  have hagree : Agree Eq (Statement.Alike R) (r.statement registry d q)
      (r'.statement registry d q') := by
    refine agree_statement (fun _ => rfl) ?_ hq hr
    rintro v _ rfl
    rfl
  generalize hs : r.statement registry d q = x at hagree
  generalize hs' : r'.statement registry d q' = x' at hagree
  cases hagree with
  | @error e _ he =>
      obtain rfl := he
      exact .inl ⟨e, rfl, rfl⟩
  | @ok s s' h =>
      exact .inr ⟨s, s', rfl, rfl, h.text, h.columns, h.source, h.parameters,
        parameters_statement hs, parameters_statement hs'⟩

/-- A number is replaced by a text and a limit by another one. -/
theorem statement_revalued_comparison :
    let R : Parameter → Parameter → Prop := fun p p' =>
      p = .value (.int 1) ∧ p' = .value (.string "x") ∨
        p = .value (.int 3) ∧ p' = .value (.int 4)
    let q : Query := ⟨.source "t" "t",
      [.filter (.binary .eq (.field "t" "n") (.literal (.int 1))) false .and, .limit 3]⟩
    let q' : Query := ⟨.source "t" "t",
      [.filter (.binary .eq (.field "t" "n") (.literal (.string "x"))) false .and, .limit 4]⟩
    q.Revalued R Eq q' ∧ ∃ s s', select.statement none .sqlite q = .ok s ∧
      select.statement none .sqlite q' = .ok s' ∧ s.text = s'.text ∧
      List.Forall₂ R s.parameters s'.parameters := by
  intro R q q'
  have hterm : Term.Revalued R Eq (.binary .eq (.field "t" "n") (.literal (.int 1)))
      (.binary .eq (.field "t" "n") (.literal (.string "x"))) :=
    .binary .eq (.field "t" "n") (.literal rfl rfl rfl (.inl ⟨rfl, rfl⟩))
  have hq : q.Revalued R Eq q' :=
    ⟨.source "t" "t", .cons (.filter false .and hterm) (.cons (.limit (.inr ⟨rfl, rfl⟩)) .nil)⟩
  have hs : select.statement none .sqlite q = .ok
      ⟨"SELECT \"t\".* FROM \"t\" AS \"t\" WHERE (\"t\".\"n\" = ?) LIMIT ?",
        [.value (.int 1), .value (.int 3)], [], none⟩ := by
    cbv
  have h := @statement_revalued R none .sqlite q q' _ _ hq .select
  rcases h with ⟨e, he, -⟩ | ⟨s, s', hs, hs', htext, -, -, hparameters, -⟩
  · rw [hs] at he
    cases he
  · exact ⟨hq, s, s', hs, hs', htext, hparameters⟩

end Request

end RecordMapper
