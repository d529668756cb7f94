import RecordMapper.Proofs.Sql.Binding

/-! # Terms spread over a statement

A statement is words and names with the pieces of terms between them, each of which stands after a
word. What holds of the pieces of every such term holds of the statement. -/

namespace RecordMapper

open Outcome Piece

variable {d : Dialect}

/-- Words and names and, each after a word, the pieces of terms in order. -/
inductive Spread (d : Dialect) : List Piece → List Term → Prop where
  | nil : Spread d [] []
  | word {w : String} {ps : List Piece} {ts : List Term} : w ∈ vocabulary → Spread d ps ts →
      Spread d (.word w :: ps) ts
  | name {n : String} {ps : List Piece} {ts : List Term} : Spread d ps ts →
      Spread d (.name n :: ps) ts
  | term {w : String} {s : Scope} {inAggregate : Bool} {t : Term} {qs ps : List Piece}
      {ts : List Term} : w ∈ vocabulary → t.pieces d s inAggregate = .ok qs → Spread d ps ts →
      Spread d (.word w :: (qs ++ ps)) (t :: ts)

namespace Spread

variable {ps qs : List Piece} {ts us : List Term}

theorem append (hp : Spread d ps ts) (hq : Spread d qs us) : Spread d (ps ++ qs) (ts ++ us) := by
  induction hp with
  | nil => exact hq
  | word hw _ ih => exact .word hw ih
  | name _ ih => exact .name ih
  | term hw ht _ ih =>
      rw [List.cons_append, List.append_assoc]
      exact .term hw ht ih

/-- What is bound are the values of the terms in order. -/
theorem parameters (h : Spread d ps ts) : Piece.parameters ps = ts.flatMap Term.bound := by
  induction h with
  | nil => rfl
  | word _ _ ih => simpa [Piece.parameters] using ih
  | name _ ih => simpa [Piece.parameters] using ih
  | term _ ht _ ih => simp [Piece.parameters, Term.parameters_pieces ht, ih]

theorem loses_iff (h : Spread d ps ts) : Loses ps ↔ ∃ t ∈ ts, Term.EmptiesIn t.nodes := by
  induction h with
  | nil => simp
  | word _ _ ih => simpa using ih
  | name _ ih => simpa using ih
  | term _ ht _ ih => simp [Term.loses_pieces ht, ih]

theorem isOf {written : String → Prop} (h : Spread d ps ts)
    (hw : ∀ t ∈ ts, ∀ raw params, .fragment raw params ∈ t.nodes → written raw) :
    ∀ p ∈ ps, p.IsOf written := by
  induction h with
  | nil => simp
  | word hv _ ih => simpa [hv] using ih hw
  | name _ ih => simpa using ih hw
  | term hv ht _ ih =>
      rw [List.forall_mem_cons] at hw
      simp only [List.forall_mem_cons, List.forall_mem_append, isOf_word_iff]
      exact ⟨hv, Term.isOf_pieces ht hw.1, ih hw.2⟩

/-- What stands after a term is no digit. -/
theorem layout_head (h : Spread d ps ts) : layout ps = [] ∨ ∃ cs, layout ps = .other :: cs := by
  cases h <;> simp [cells]

theorem infix_append_other_iff (cs ds : List Cell) :
    [.place, .digit] <:+: cs ++ .other :: ds ↔
      [.place, .digit] <:+: cs ∨ [.place, .digit] <:+: ds := by
  induction cs with
  | nil => simp [List.infix_cons_iff]
  | cons c cs ih =>
      have hfirst : [Cell.place, .digit] <+: c :: (cs ++ .other :: ds) ↔
          [Cell.place, .digit] <+: c :: cs := by
        cases cs <;> simp [List.cons_prefix_cons]
      rw [List.cons_append, List.infix_cons_iff, List.infix_cons_iff, hfirst, ih, or_assoc]

/-- A placeholder stands right before a digit in one of the terms only. -/
theorem fuses_iff (h : Spread d ps ts) :
    [.place, .digit] <:+: layout ps ↔ ∃ t ∈ ts, t.Fuses := by
  induction h with
  | nil => simp
  | word _ _ ih => simpa [cells, List.infix_cons_iff] using ih
  | name _ ih => simpa [cells, List.infix_cons_iff] using ih
  | @term w s inAggregate t qs ps ts hv ht hps ih =>
      have hother : [Cell.place, .digit] <:+: layout (.word w :: (qs ++ ps)) ↔
          [Cell.place, .digit] <:+: t.layout ++ layout ps := by
        simp [cells, List.infix_cons_iff, Term.layout_pieces ht]
      rw [hother, List.exists_mem_cons_iff, ← ih, Term.Fuses]
      rcases hps.layout_head with hnil | ⟨cs, hcs⟩
      · simp [hnil]
      · rw [hcs, infix_append_other_iff]
        simp [List.infix_cons_iff]

end Spread

/-! ## Items of a clause -/

/-- Pieces over which terms are spread once they stand after a word. -/
def Item (d : Dialect) (ps : List Piece) (ts : List Term) : Prop :=
  ∀ w ∈ vocabulary, Spread d (.word w :: ps) ts

namespace Item

variable {ps qs : List Piece} {ts us : List Term}

theorem term {s : Scope} {inAggregate : Bool} {t : Term}
    (h : t.pieces d s inAggregate = .ok ps) : Item d ps [t] := by
  intro w hw
  simpa using Spread.term hw h .nil

theorem spread (h : Spread d ps ts) : Item d ps ts := fun _ hw => .word hw h

theorem append (hp : Item d ps ts) (hq : Spread d qs us) : Item d (ps ++ qs) (ts ++ us) :=
  fun w hw => (hp w hw).append hq

/-- Items with a word between them. -/
theorem separated {separator : String} (hs : separator ∈ vocabulary) {pss : List (List Piece)}
    {tss : List (List Term)} (h : List.Forall₂ (Item d) pss tss) :
    Item d (Piece.separated separator pss) tss.flatten := by
  induction h with
  | nil => exact .spread .nil
  | @cons ps ts pss tss hp hps ih =>
      cases pss with
      | nil =>
          cases hps
          simpa [Piece.separated] using hp
      | cons qs pss => exact hp.append (ih separator hs)

end Item

end RecordMapper
