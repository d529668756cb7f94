import RecordMapper.Proofs.Query.Revalued
import RecordMapper.Proofs.Sql.Pieces

/-! # Pieces that are alike

Terms that differ in what they bind only are refused alike, or their pieces differ in what they bind
only. -/

namespace RecordMapper

open Outcome

/-- Two pieces that differ in what they bind only. -/
inductive Piece.Alike (R : Parameter → Parameter → Prop) : Piece → Piece → Prop where
  | word (s : String) : Alike R (.word s) (.word s)
  | raw (cs : List Char) : Alike R (.raw cs) (.raw cs)
  | name (s : String) : Alike R (.name s) (.name s)
  | slot {p q : Parameter} : R p q → Alike R (.slot p) (.slot q)
  | unplaced {p q : Parameter} : R p q → Alike R (.unplaced p) (.unplaced q)

variable {R : Parameter → Parameter → Prop} {S : Value → Value → Prop}

/-- Pieces that differ in what they bind only. -/
abbrev Alikes (R : Parameter → Parameter → Prop) : List Piece → List Piece → Prop :=
  List.Forall₂ (Piece.Alike R)

namespace Alikes

variable {ps qs ps' qs' : List Piece}

theorem append (h : Alikes R ps qs) (h' : Alikes R ps' qs') : Alikes R (ps ++ ps') (qs ++ qs') :=
  List.rel_append h h'

theorem word (s : String) (h : Alikes R ps qs) : Alikes R (.word s :: ps) (.word s :: qs) :=
  .cons (.word s) h

/-- Pieces that bind nothing are alike. -/
theorem refl (h : Piece.parameters ps = []) : Alikes R ps ps := by
  induction ps with
  | nil => exact .nil
  | cons p ps ih =>
      cases p with
      | word s => exact .cons (.word s) (ih h)
      | raw cs => exact .cons (.raw cs) (ih h)
      | name s => exact .cons (.name s) (ih h)
      | slot p => simp [Piece.parameters] at h
      | unplaced p => simp [Piece.parameters] at h

/-- The text does not depend on what is bound. -/
theorem render_eq (h : Alikes R ps qs) (d : Dialect) (bound : Nat) :
    Piece.render d bound ps = Piece.render d bound qs := by
  induction h generalizing bound with
  | nil => rfl
  | cons hp _ ih => cases hp <;> simp [Piece.render, ih]

theorem parameters (h : Alikes R ps qs) :
    List.Forall₂ R (Piece.parameters ps) (Piece.parameters qs) := by
  induction h with
  | nil => exact .nil
  | cons hp _ ih =>
      cases hp with
      | slot hr => exact .cons hr ih
      | unplaced hr => exact .cons hr ih
      | _ => exact ih

theorem withoutPlaces (h : Alikes R ps qs) :
    Alikes R (Piece.withoutPlaces ps) (Piece.withoutPlaces qs) := by
  induction h with
  | nil => exact .nil
  | cons hp _ ih =>
      cases hp with
      | slot hr => exact .cons (.unplaced hr) ih
      | unplaced hr => exact .cons (.unplaced hr) ih
      | _ => exact ih

theorem separated (separator : String) {pss qss : List (List Piece)}
    (h : List.Forall₂ (Alikes R) pss qss) :
    Alikes R (Piece.separated separator pss) (Piece.separated separator qss) := by
  induction h with
  | nil => exact .nil
  | cons hp hps ih =>
      cases hps with
      | nil => exact hp
      | cons => exact hp.append (.word separator ih)

theorem fillSlots (parts : List Fragment.Part) {pss qss : List (List Piece)}
    (h : List.Forall₂ (Alikes R) pss qss) :
    Alikes R (Term.fillSlots parts pss) (Term.fillSlots parts qss) := by
  induction parts generalizing pss qss with
  | nil => exact .nil
  | cons part parts ih =>
      cases part with
      | text cs => exact .cons (.raw cs) (ih h)
      | slot =>
          cases h with
          | nil => exact ih .nil
          | cons hp hps => exact hp.append (ih hps)

end Alikes

namespace Term

namespace Revalued

variable {t u : Term}

theorem of_literal (h : Revalued R S t u) {p : Parameter} (ht : t.literal? = some p) :
    ∃ q, u.literal? = some q ∧ R p q := by
  cases h with
  | literal hp hq _ hr =>
      obtain rfl := Option.some.inj (ht.symm.trans hp)
      exact ⟨_, hq, hr⟩
  | _ => simp [literal?] at ht

/-- Whether a term is the literal without a value does not depend on what is bound. -/
theorem isNullLiteral_eq (h : Revalued R S t u) : t.isNullLiteral = u.isNullLiteral := by
  cases h with
  | literal _ _ hnull _ => exact hnull
  | _ => rfl

end Revalued

variable {d : Dialect} {s : Scope}

theorem pieces_of_literal {inAggregate : Bool} {t : Term} {p : Parameter}
    (h : t.literal? = some p) : t.pieces d s inAggregate = .ok [.slot p] := by
  cases t <;> simp_all [literal?, pieces]

theorem literal?_toTerm (p : Parameter) : p.toTerm.literal? = some p := by
  cases p <;> rfl

variable {E : CompileError → CompileError → Prop}

theorem checkOperator_eq {l l' r r' : Term} (hl : Revalued R S l l') (hr : Revalued R S r r')
    (op : Operator) : checkOperator s op l r = checkOperator s op l' r' := by
  cases op <;> simp [checkOperator, hl.isNullLiteral_eq, hr.isNullLiteral_eq]

mutual

/-- Terms that differ in what they bind only are refused alike or have alike pieces. -/
theorem agree_pieces (hE : ∀ e, E e e)
    (hS : ∀ v w, S v w → E (.unknownTerm v.className) (.unknownTerm w.className)) :
    ∀ (inAggregate : Bool) {t u : Term}, Revalued R S t u →
      Agree E (Alikes R) (t.pieces d s inAggregate) (u.pieces d s inAggregate)
  | inAggregate, .literal v, u, h => by
      obtain ⟨q, hq, hr⟩ := h.of_literal rfl
      rw [pieces_of_literal rfl, pieces_of_literal hq]
      exact .ok (.cons (.slot hr) .nil)
  | inAggregate, .held item, u, h => by
      -- the other term may be a literal of a plain value: only what is bound is compared
      obtain ⟨q, hq, hr⟩ := h.of_literal rfl
      rw [pieces_of_literal rfl, pieces_of_literal hq]
      exact .ok (.cons (.slot hr) .nil)
  | inAggregate, .field b n, u, h => by
      cases h with
      | literal hp => simp [literal?] at hp
      | field =>
          refine .refl hE fun ps hps => ?_
          rw [pieces] at hps
          rw [Scope.fieldPieces_eq hps]
          exact .cons (.name b) (Alikes.word "." (.cons (.name n) .nil))
  | inAggregate, .binary op l r, u, h => by
      cases h with
      | literal hp => simp [literal?] at hp
      | binary _ hl hr =>
          rw [pieces, pieces, checkOperator_eq hl hr]
          refine (Agree.refl (R := fun _ _ => True) hE fun _ _ => trivial).bind fun _ _ _ => ?_
          refine (agree_pieces hE hS inAggregate hl).bind fun ls ls' hls => ?_
          refine (agree_pieces hE hS inAggregate hr).bind fun rs rs' hrs => .ok ?_
          exact ((hls.word _).append (.word _ hrs)).append (.word _ .nil)
  | inAggregate, .connected op ts, u, h => by
      cases h with
      | literal hp => simp [literal?] at hp
      | connected _ hts =>
          rw [pieces, pieces]
          refine (Agree.refl (R := Eq) hE fun _ _ => rfl).bind ?_
          rintro word _ rfl
          refine (agree_piecesOfAll hE hS inAggregate hts).bind fun pss qss hpss => .ok ?_
          exact ((Alikes.separated word hpss).word _).append (.word _ .nil)
  | inAggregate, .not t, u, h => by
      cases h with
      | literal hp => simp [literal?] at hp
      | not ht =>
          rw [pieces, pieces]
          refine (agree_pieces hE hS inAggregate ht).bind fun ps qs hps => .ok ?_
          exact (hps.word _).append (.word _ .nil)
  | inAggregate, .isNull t negated, u, h => by
      cases h with
      | literal hp => simp [literal?] at hp
      | isNull _ ht =>
          rw [pieces, pieces]
          refine (agree_pieces hE hS inAggregate ht).bind fun ps qs hps => .ok ?_
          exact (hps.word _).append (.word _ .nil)
  | inAggregate, .inList t [] negated, u, h => by
      cases h with
      | literal hp => simp [literal?] at hp
      | inList _ ht hts =>
          cases hts
          rw [pieces, pieces]
          refine (agree_pieces hE hS inAggregate ht).bind fun ps qs hps => .ok ?_
          exact hps.withoutPlaces.append (.word _ .nil)
  | inAggregate, .inList t (v :: vs) negated, u, h => by
      cases h with
      | literal hp => simp [literal?] at hp
      | inList _ ht hts =>
          cases hts with
          | cons hv hvs =>
              rw [pieces, pieces]
              refine (agree_pieces hE hS inAggregate ht).bind fun ps qs hps => ?_
              refine (agree_pieces hE hS inAggregate hv).bind fun _ _ hfirst => ?_
              refine (agree_piecesOfAll hE hS inAggregate hvs).bind fun _ _ hmore => .ok ?_
              have hlist := Alikes.separated ", " (.cons hfirst hmore)
              exact ((hps.word _).append (.word _ hlist)).append (.word _ .nil)
  | inAggregate, .aggregate f none distinct, u, h => by
      cases h with
      | literal hp => simp [literal?] at hp
      | aggregateRows =>
          refine .refl hE fun ps hps => ?_
          simp only [pieces, bind_eq_ok_iff] at hps
          obtain ⟨-, -, hps⟩ := hps
          split at hps
          · obtain rfl : [Piece.word "COUNT(*)"] = ps := by simpa using hps
            exact .word _ .nil
          · simp at hps
  | inAggregate, .aggregate f (some t) distinct, u, h => by
      cases h with
      | literal hp => simp [literal?] at hp
      | aggregate _ _ ht =>
          rw [pieces, pieces]
          refine (Agree.refl (R := fun _ _ => True) hE fun _ _ => trivial).bind fun _ _ _ => ?_
          refine (agree_pieces hE hS true ht).bind fun ps qs hps => .ok ?_
          exact ((hps.word _).word _).append (.word _ .nil)
  | inAggregate, .fragment raw ts, u, h => by
      cases h with
      | literal hp => simp [literal?] at hp
      | fragment _ hts =>
          rw [pieces, pieces, hts.length_eq]
          refine (Agree.refl (R := Eq) hE fun _ _ => rfl).bind ?_
          rintro parts _ rfl
          refine (agree_piecesOfParams hE hS inAggregate hts).bind fun pss qss hpss => .ok ?_
          exact Alikes.fillSlots parts hpss
  | inAggregate, .alias t n, u, h => by
      cases h with
      | literal hp => simp [literal?] at hp
      | named => exact .error (hE _)
  | inAggregate, .order t d, u, h => by
      cases h with
      | literal hp => simp [literal?] at hp
      | order => exact .error (hE _)
  | inAggregate, .pair t word, u, h => by
      cases h with
      | literal hp => simp [literal?] at hp
      | pair => exact .error (hE _)
  | inAggregate, .plain v, u, h => by
      cases h with
      | literal hp => simp [literal?] at hp
      | plain hv => exact .error (hS _ _ hv)

theorem agree_piecesOfAll (hE : ∀ e, E e e)
    (hS : ∀ v w, S v w → E (.unknownTerm v.className) (.unknownTerm w.className)) :
    ∀ (inAggregate : Bool) {ts us : List Term}, List.Forall₂ (Revalued R S) ts us →
      Agree E (List.Forall₂ (Alikes R)) (piecesOfAll d s inAggregate ts)
        (piecesOfAll d s inAggregate us)
  | inAggregate, [], us, h => by
      cases h
      exact .ok .nil
  | inAggregate, t :: ts, us, h => by
      cases h with
      | cons ht hts =>
          rw [piecesOfAll, piecesOfAll]
          refine (agree_pieces hE hS inAggregate ht).bind fun _ _ hps => ?_
          exact (agree_piecesOfAll hE hS inAggregate hts).bind fun _ _ hpss =>
            .ok (.cons hps hpss)

theorem agree_piecesOfParams (hE : ∀ e, E e e)
    (hS : ∀ v w, S v w → E (.unknownTerm v.className) (.unknownTerm w.className)) :
    ∀ (inAggregate : Bool) {ts us : List Term},
      List.Forall₂ (fun t u => Revalued R S t.inPlace u.inPlace) ts us →
      Agree E (List.Forall₂ (Alikes R)) (piecesOfParams d s inAggregate ts)
        (piecesOfParams d s inAggregate us)
  | inAggregate, [], us, h => by
      cases h
      exact .ok .nil
  | inAggregate, t :: ts, us, h => by
      cases h with
      | @cons _ u _ us ht hts =>
          -- a value is no part of `t` for the recursion, so what is bound in its place is read off
          have hpieces : Agree E (Alikes R) (t.inPlace.pieces d s inAggregate)
              (u.inPlace.pieces d s inAggregate) := by
            cases hp : Parameter.ofTerm? t with
            | some p =>
                rw [inPlace_of_some hp] at ht ⊢
                obtain ⟨q, hq, hr⟩ := ht.of_literal (literal?_toTerm p)
                rw [pieces_of_literal (literal?_toTerm p), pieces_of_literal hq]
                exact .ok (.cons (.slot hr) .nil)
            | none =>
                rw [inPlace_of_none hp] at ht ⊢
                exact agree_pieces hE hS inAggregate ht
          rw [piecesOfParams_cons, piecesOfParams_cons]
          refine hpieces.bind fun _ _ hps => ?_
          exact (agree_piecesOfParams hE hS inAggregate hts).bind fun _ _ hpss =>
            .ok (.cons hps hpss)

end

end Term

end RecordMapper
