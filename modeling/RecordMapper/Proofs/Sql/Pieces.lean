import RecordMapper.Proofs.Outcome
import RecordMapper.Proofs.Query.Nodes
import RecordMapper.Sql.Expression

/-! # The pieces of a term

What the pieces of a term are when it has any, by the form of the term. A property of terms and
their pieces that passes from the parts of a term to the term holds of every term that has
pieces. -/

namespace RecordMapper

open Outcome

variable {d : Dialect} {s : Scope}

theorem Scope.fieldPieces_eq {binding name : String} {ps : List Piece}
    (h : s.fieldPieces binding name = .ok ps) : ps = [.name binding, .word ".", .name name] := by
  unfold fieldPieces at h
  split at h
  · cases h
  · simp only [bind_eq_ok_iff, pure_eq_ok_iff] at h
    obtain ⟨-, -, hps⟩ := h
    exact hps.symm

namespace Term

theorem inPlace_of_some {t : Term} {p : Parameter} (h : Parameter.ofTerm? t = some p) :
    t.inPlace = p.toTerm := by
  simp [inPlace, h]

theorem inPlace_of_none {t : Term} (h : Parameter.ofTerm? t = none) : t.inPlace = t := by
  simp [inPlace, h]

theorem pieces_toTerm (inAggregate : Bool) (p : Parameter) :
    p.toTerm.pieces d s inAggregate = .ok [.slot p] := by
  cases p <;> rw [Parameter.toTerm, pieces]

/-- A parameter of a fragment has the pieces of what stands in its place. -/
theorem piecesOfParams_cons (inAggregate : Bool) (t : Term) (ts : List Term) :
    piecesOfParams d s inAggregate (t :: ts) = (do
      let ps ← t.inPlace.pieces d s inAggregate
      let rest ← piecesOfParams d s inAggregate ts
      return ps :: rest) := by
  rw [piecesOfParams]
  split
  · rename_i p hp
    rw [inPlace_of_some hp, pieces_toTerm]
    rfl
  · rename_i hp
    rw [inPlace_of_none hp]

theorem fragmentParts_eq_ok_iff {raw : String} {params : Nat} {parts : List Fragment.Part} :
    fragmentParts raw params = .ok parts ↔
      Fragment.split raw = .ok parts ∧ Fragment.slotCount parts = params := by
  unfold fragmentParts
  split
  · simp_all
  · rename_i parts' h
    simp only [h, Except.ok.injEq]
    split
    · simp only [Except.ok.injEq]
      grind
    · simp only [reduceCtorEq, false_iff]
      grind

section

variable {P : Term → Prop} {ts : List Term} {pss : List (List Piece)}

/-- What each term and its pieces have if the nodes of the term are such, they all have if the nodes
of all terms are. -/
theorem forall₂_of_allNodes {R : Term → List Piece → Prop}
    (h : List.Forall₂ (fun t ps => (∀ u ∈ t.nodes, P u) → R t ps) ts pss)
    (hts : ∀ u ∈ allNodes ts, P u) : List.Forall₂ R ts pss := by
  induction h with
  | nil => exact .nil
  | cons ht _ ih =>
      obtain ⟨hhead, htail⟩ := List.forall_mem_append.mp hts
      exact .cons (ht hhead) (ih htail)

theorem forall_pieces_of_allNodes {R : List Piece → Prop}
    (h : List.Forall₂ (fun t ps => (∀ u ∈ t.nodes, P u) → R ps) ts pss)
    (hts : ∀ u ∈ allNodes ts, P u) : ∀ ps ∈ pss, R ps := by
  have hall := forall₂_of_allNodes h hts
  clear h hts
  induction hall with
  | nil => simp
  | cons hps _ ih => exact List.forall_mem_cons.mpr ⟨hps, ih⟩

end

/-- A property of terms and their pieces that passes from the parts of a term to the term. What is
no term counts as what is bound in its place. -/
structure Compositional (d : Dialect) (s : Scope) (P : Term → List Piece → Prop) : Prop where
  field (binding name : String) : P (.field binding name) [.name binding, .word ".", .name name]
  bound (p : Parameter) : P p.toTerm [.slot p]
  binary {op : Operator} {l r : Term} {ls rs : List Piece} :
    checkOperator s op l r = .ok () → P l ls → P r rs → P (.binary op l r) (binaryPieces d op ls rs)
  connected {op : Connective} {word : String} {ts : List Term} {pss : List (List Piece)} :
    connectiveWord op = .ok word → List.Forall₂ P ts pss →
    P (.connected op ts) (.word "(" :: Piece.separated word pss ++ [.word ")"])
  not {t : Term} {ps : List Piece} : P t ps → P (.not t) (.word "(NOT " :: ps ++ [.word ")"])
  isNull {t : Term} {ps : List Piece} (negated : Bool) : P t ps →
    P (.isNull t negated)
      (.word "(" :: ps ++ [.word (if negated then " IS NOT NULL)" else " IS NULL)")])
  inNone {inAggregate : Bool} {t : Term} {ps : List Piece} (negated : Bool) :
    t.pieces d s inAggregate = .ok ps → P t ps →
    P (.inList t [] negated) (emptyListPieces ps negated)
  inList {t v : Term} {vs : List Term} {ps : List Piece} {pss : List (List Piece)}
    (negated : Bool) : P t ps → List.Forall₂ P (v :: vs) pss →
    P (.inList t (v :: vs) negated)
      (.word "(" :: ps ++ .word (if negated then " NOT IN (" else " IN (") ::
        Piece.separated ", " pss ++ [.word "))"])
  rows (distinct : Bool) : P (.aggregate .count none distinct) [.word "COUNT(*)"]
  aggregate {inAggregate : Bool} {f : AggregateFunction} {t : Term} {ps : List Piece}
    (distinct : Bool) : checkAggregate s inAggregate f = .ok () → P t ps →
    P (.aggregate f (some t) distinct)
      (.word f.word.toUpper :: .word (if distinct then "(DISTINCT " else "(") ::
        ps ++ [.word ")"])
  fragment {raw : String} {ts : List Term} {parts : List Fragment.Part}
    {pss : List (List Piece)} : Fragment.split raw = .ok parts →
    Fragment.slotCount parts = ts.length → List.Forall₂ (fun t ps => P t.inPlace ps) ts pss →
    P (.fragment raw ts) (fillSlots parts pss)

namespace Compositional

variable {P : Term → List Piece → Prop}

mutual

/-- A property that passes from parts to terms holds of every term that has pieces. -/
theorem of_pieces (hP : Compositional d s P) : ∀ {inAggregate : Bool} {t : Term} {ps : List Piece},
    t.pieces d s inAggregate = .ok ps → P t ps
  | _, .field b n, ps, h => by
      rw [pieces] at h
      rw [Scope.fieldPieces_eq h]
      exact hP.field b n
  | _, .literal v, ps, h => by
      obtain rfl : [Piece.slot (.value v)] = ps := by simpa [pieces] using h
      exact hP.bound (.value v)
  | _, .held item, ps, h => by
      obtain rfl : [Piece.slot (.item item)] = ps := by simpa [pieces] using h
      exact hP.bound (.item item)
  | _, .binary op l r, ps, h => by
      simp only [pieces, bind_eq_ok_iff, pure_eq_ok_iff] at h
      obtain ⟨_, hop, ls, hl, rs, hr, rfl⟩ := h
      exact hP.binary hop (of_pieces hP hl) (of_pieces hP hr)
  | _, .connected op ts, ps, h => by
      simp only [pieces, bind_eq_ok_iff, pure_eq_ok_iff] at h
      obtain ⟨word, hword, pss, hpss, rfl⟩ := h
      exact hP.connected hword (of_piecesOfAll hP hpss)
  | _, .not t, ps, h => by
      simp only [pieces, bind_eq_ok_iff, pure_eq_ok_iff] at h
      obtain ⟨ts, ht, rfl⟩ := h
      exact hP.not (of_pieces hP ht)
  | _, .isNull t negated, ps, h => by
      simp only [pieces, bind_eq_ok_iff, pure_eq_ok_iff] at h
      obtain ⟨ts, ht, rfl⟩ := h
      exact hP.isNull negated (of_pieces hP ht)
  | _, .inList t [] negated, ps, h => by
      simp only [pieces, bind_eq_ok_iff, pure_eq_ok_iff] at h
      obtain ⟨ts, ht, rfl⟩ := h
      exact hP.inNone negated ht (of_pieces hP ht)
  | _, .inList t (v :: vs) negated, ps, h => by
      simp only [pieces, bind_eq_ok_iff, pure_eq_ok_iff] at h
      obtain ⟨ts, ht, first, hfirst, more, hmore, rfl⟩ := h
      exact hP.inList negated (of_pieces hP ht)
        (.cons (of_pieces hP hfirst) (of_piecesOfAll hP hmore))
  | _, .aggregate f none distinct, ps, h => by
      simp only [pieces, bind_eq_ok_iff] at h
      obtain ⟨-, -, h⟩ := h
      split at h
      · rename_i hf
        obtain rfl : [Piece.word "COUNT(*)"] = ps := by simpa using h
        rw [hf]
        exact hP.rows distinct
      · simp at h
  | _, .aggregate f (some t) distinct, ps, h => by
      simp only [pieces, bind_eq_ok_iff, pure_eq_ok_iff] at h
      obtain ⟨_, hf, ts, ht, rfl⟩ := h
      exact hP.aggregate distinct hf (of_pieces hP ht)
  | _, .fragment raw ts, ps, h => by
      simp only [pieces, bind_eq_ok_iff, pure_eq_ok_iff, fragmentParts_eq_ok_iff] at h
      obtain ⟨parts, ⟨hparts, hcount⟩, pss, hpss, rfl⟩ := h
      exact hP.fragment hparts hcount (of_piecesOfParams hP hpss)
  | _, .alias t n, ps, h => by simp [pieces] at h
  | _, .order t d, ps, h => by simp [pieces] at h
  | _, .pair t word, ps, h => by simp [pieces] at h
  | _, .plain v, ps, h => by simp [pieces] at h

theorem of_piecesOfAll (hP : Compositional d s P) : ∀ {inAggregate : Bool} {ts : List Term}
    {pss : List (List Piece)}, piecesOfAll d s inAggregate ts = .ok pss → List.Forall₂ P ts pss
  | _, [], pss, h => by
      obtain rfl : [] = pss := by simpa [piecesOfAll] using h
      exact .nil
  | _, t :: ts, pss, h => by
      simp only [piecesOfAll, bind_eq_ok_iff, pure_eq_ok_iff] at h
      obtain ⟨ps, hps, rest, hrest, rfl⟩ := h
      exact .cons (of_pieces hP hps) (of_piecesOfAll hP hrest)

theorem of_piecesOfParams (hP : Compositional d s P) : ∀ {inAggregate : Bool} {ts : List Term}
    {pss : List (List Piece)}, piecesOfParams d s inAggregate ts = .ok pss →
      List.Forall₂ (fun t ps => P t.inPlace ps) ts pss
  | _, [], pss, h => by
      obtain rfl : [] = pss := by simpa [piecesOfParams] using h
      exact .nil
  | _, t :: ts, pss, h => by
      simp only [piecesOfParams_cons, bind_eq_ok_iff, pure_eq_ok_iff] at h
      obtain ⟨ps, hps, rest, hrest, rfl⟩ := h
      refine .cons ?_ (of_piecesOfParams hP hrest)
      cases hp : Parameter.ofTerm? t with
      | some p =>
          rw [inPlace_of_some hp, pieces_toTerm] at hps
          rw [inPlace_of_some hp]
          obtain rfl : [Piece.slot p] = ps := by simpa using hps
          exact hP.bound p
      | none =>
          rw [inPlace_of_none hp] at hps ⊢
          exact of_pieces hP hps

end

end Compositional

end Term

end RecordMapper
