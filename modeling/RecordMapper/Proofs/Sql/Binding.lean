import RecordMapper.Proofs.Query.Nodes
import RecordMapper.Proofs.Sql.Vocabulary

/-! # What a statement binds

The pieces of a term bind the values of the term, from left to right, each of them once. Where a
list of values is empty, its operand is bound all the same. -/

namespace RecordMapper

namespace Piece

@[simp] theorem parameters_append (ps qs : List Piece) :
    parameters (ps ++ qs) = parameters ps ++ parameters qs := by
  induction ps with
  | nil => rfl
  | cons p ps ih => cases p <;> simp [parameters, ih]

@[simp] theorem parameters_withoutPlaces (ps : List Piece) :
    parameters (withoutPlaces ps) = parameters ps := by
  induction ps with
  | nil => rfl
  | cons p ps ih => cases p <;> simp [withoutPlaces, parameters, ih]

@[simp] theorem parameters_separated (separator : String) (pss : List (List Piece)) :
    parameters (separated separator pss) = pss.flatMap parameters := by
  fun_induction separated separator pss with
  | case1 => rfl
  | case2 ps => simp
  | case3 ps rest hne ih => simp [parameters, ih]

theorem render_append (bound : Nat) (ps qs : List Piece) :
    render d bound (ps ++ qs) =
      render d bound ps ++ render d (bound + (parameters ps).length) qs := by
  induction ps generalizing bound with
  | nil => simp [render, parameters]
  | cons p ps ih =>
      cases p <;> simp [render, parameters, ih, Nat.add_assoc, Nat.add_comm 1]

/-- Parts with as many slots as there are parameters bind all of them. -/
theorem parameters_fillSlots {parts : List Fragment.Part} {pss : List (List Piece)}
    (h : Fragment.slotCount parts = pss.length) :
    parameters (Term.fillSlots parts pss) = pss.flatMap parameters := by
  fun_induction Term.fillSlots parts pss with
  | case1 pss =>
      obtain rfl : pss = [] := by simpa [Fragment.slotCount, eq_comm] using h
      rfl
  | case2 cs parts pss ih => simpa [parameters] using ih (by simpa [Fragment.slotCount] using h)
  | case3 parts ih => simp [Fragment.slotCount] at h
  | case4 parts ps pss ih =>
      simpa using ih (by simpa [Fragment.slotCount] using h)

/-- Something is bound that has no placeholder. -/
def Loses (ps : List Piece) : Prop := ∃ p, .unplaced p ∈ ps

@[simp] theorem loses_nil : ¬ Loses [] := by simp [Loses]

@[simp] theorem loses_append (ps qs : List Piece) : Loses (ps ++ qs) ↔ Loses ps ∨ Loses qs := by
  simp [Loses, exists_or]

@[simp] theorem loses_word (s : String) (ps : List Piece) : Loses (.word s :: ps) ↔ Loses ps := by
  simp [Loses]

@[simp] theorem loses_raw (cs : List Char) (ps : List Piece) :
    Loses (.raw cs :: ps) ↔ Loses ps := by
  simp [Loses]

@[simp] theorem loses_name (s : String) (ps : List Piece) : Loses (.name s :: ps) ↔ Loses ps := by
  simp [Loses]

@[simp] theorem loses_slot (p : Parameter) (ps : List Piece) :
    Loses (.slot p :: ps) ↔ Loses ps := by
  simp [Loses]

@[simp] theorem loses_unplaced (p : Parameter) (ps : List Piece) : Loses (.unplaced p :: ps) :=
  ⟨p, by simp⟩

/-- Without their places, pieces lose all that they bind. -/
theorem loses_withoutPlaces (ps : List Piece) : Loses (withoutPlaces ps) ↔ parameters ps ≠ [] := by
  induction ps with
  | nil => simp [withoutPlaces, parameters]
  | cons p ps ih => cases p <;> simp [withoutPlaces, parameters, ih]

theorem parameters_ne_nil {ps : List Piece} (h : Loses ps) : parameters ps ≠ [] := by
  obtain ⟨p, hp⟩ := h
  induction ps with
  | nil => simp at hp
  | cons q ps ih => cases q <;> simp_all [parameters]

theorem loses_separated (separator : String) (pss : List (List Piece)) :
    Loses (separated separator pss) ↔ ∃ ps ∈ pss, Loses ps := by
  fun_induction separated separator pss with
  | case1 => simp
  | case2 ps => simp
  | case3 ps rest hne ih => simp [ih]

/-- Parts with as many slots as there are parameters lose what one of them loses. -/
theorem loses_fillSlots {parts : List Fragment.Part} {pss : List (List Piece)}
    (h : Fragment.slotCount parts = pss.length) :
    Loses (Term.fillSlots parts pss) ↔ ∃ ps ∈ pss, Loses ps := by
  fun_induction Term.fillSlots parts pss with
  | case1 pss =>
      obtain rfl : pss = [] := by simpa [Fragment.slotCount, eq_comm] using h
      simp
  | case2 cs parts pss ih => simpa using ih (by simpa [Fragment.slotCount] using h)
  | case3 parts ih => simp [Fragment.slotCount] at h
  | case4 parts ps pss ih =>
      simpa using or_congr_right (ih (by simpa [Fragment.slotCount] using h))

end Piece

namespace Term

open Outcome

theorem piecesOfAll_eq_ok_iff {d : Dialect} {s : Scope} {inAggregate : Bool} {ts : List Term}
    {pss : List (List Piece)} :
    piecesOfAll d s inAggregate ts = .ok pss ↔
      List.Forall₂ (fun t ps => pieces d s inAggregate t = .ok ps) ts pss := by
  induction ts generalizing pss with
  | nil => simp [piecesOfAll, eq_comm]
  | cons t ts ih =>
      simp only [piecesOfAll, bind_eq_ok_iff, pure_eq_ok_iff, ih, List.forall₂_cons_left_iff]
      grind

/-! ## What is bound -/

theorem paramsBound_cons (t : Term) (ts : List Term) :
    paramsBound (t :: ts) = t.inPlace.bound ++ paramsBound ts := by
  rw [paramsBound]
  split
  · rename_i p hp
    rw [inPlace_of_some hp]
    cases p <;> rfl
  · rename_i hp
    rw [inPlace_of_none hp]

theorem allBound_eq_of_forall₂ {ts : List Term} {pss : List (List Piece)}
    (h : List.Forall₂ (fun t ps => Piece.parameters ps = bound t) ts pss) :
    pss.flatMap Piece.parameters = allBound ts := by
  induction h with
  | nil => rfl
  | cons ht _ ih => rw [List.flatMap_cons, ht, ih, allBound]

theorem paramsBound_eq_of_forall₂ {ts : List Term} {pss : List (List Piece)}
    (h : List.Forall₂ (fun t ps => Piece.parameters ps = bound t.inPlace) ts pss) :
    pss.flatMap Piece.parameters = paramsBound ts := by
  induction h with
  | nil => rfl
  | cons ht _ ih => rw [List.flatMap_cons, ht, ih, paramsBound_cons]

theorem compositional_parameters (d : Dialect) (s : Scope) :
    Compositional d s (fun t ps => Piece.parameters ps = bound t) where
  field _ _ := rfl
  bound p := by cases p <;> rfl
  binary _ hl hr := by simp [binaryPieces, Piece.parameters, bound, hl, hr]
  connected _ hts := by simp [Piece.parameters, bound, allBound_eq_of_forall₂ hts]
  not ht := by simp [Piece.parameters, bound, ht]
  isNull _ ht := by simp [Piece.parameters, bound, ht]
  inNone _ _ ht := by simp [emptyListPieces, Piece.parameters, bound, allBound, ht]
  inList _ ht hvs := by simp [Piece.parameters, bound, ht, allBound_eq_of_forall₂ hvs]
  rows _ := rfl
  aggregate _ _ ht := by simp [Piece.parameters, bound, ht]
  fragment _ hcount hts := by
    rw [Piece.parameters_fillSlots (hcount.trans hts.length_eq), paramsBound_eq_of_forall₂ hts,
      bound]

/-- The pieces of a term bind what the term binds. -/
theorem parameters_pieces {d : Dialect} {s : Scope} {inAggregate : Bool} {t : Term}
    {ps : List Piece} (h : t.pieces d s inAggregate = .ok ps) : Piece.parameters ps = t.bound :=
  (compositional_parameters d s).of_pieces h

/-! ## What is lost -/

/-- Among the terms is a list without values whose operand binds something. -/
def EmptiesIn (ts : List Term) : Prop :=
  ∃ t negated, .inList t [] negated ∈ ts ∧ t.bound ≠ []

theorem emptiesIn_append (ts us : List Term) :
    EmptiesIn (ts ++ us) ↔ EmptiesIn ts ∨ EmptiesIn us := by
  simp [EmptiesIn, or_and_right, exists_or]

theorem emptiesIn_cons {t : Term} (h : ∀ x negated, t ≠ .inList x [] negated) (ts : List Term) :
    EmptiesIn (t :: ts) ↔ EmptiesIn ts := by
  constructor
  · rintro ⟨x, negated, hx, hb⟩
    rcases List.mem_cons.mp hx with hx | hx
    · exact absurd hx.symm (h x negated)
    · exact ⟨x, negated, hx, hb⟩
  · rintro ⟨x, negated, hx, hb⟩
    exact ⟨x, negated, List.mem_cons_of_mem t hx, hb⟩

theorem emptiesIn_toTerm (p : Parameter) : ¬ EmptiesIn p.toTerm.nodes := by
  cases p <;> simp [Parameter.toTerm, EmptiesIn, nodes]

theorem emptiesIn_paramNodes_cons (t : Term) (ts : List Term) :
    EmptiesIn (paramNodes (t :: ts)) ↔ EmptiesIn t.inPlace.nodes ∨ EmptiesIn (paramNodes ts) := by
  rw [paramNodes, emptiesIn_append]
  split
  · rename_i p hp
    rw [inPlace_of_some hp, or_iff_right (emptiesIn_toTerm p)]
    simp [EmptiesIn]
  · rename_i hp
    rw [inPlace_of_none hp]

theorem exists_loses_iff_emptiesIn_allNodes {ts : List Term} {pss : List (List Piece)}
    (h : List.Forall₂ (fun t ps => Piece.Loses ps ↔ EmptiesIn (nodes t)) ts pss) :
    (∃ ps ∈ pss, Piece.Loses ps) ↔ EmptiesIn (allNodes ts) := by
  induction h with
  | nil => simp [EmptiesIn, allNodes]
  | cons ht _ ih => rw [List.exists_mem_cons_iff, ht, ih, allNodes, emptiesIn_append]

theorem exists_loses_iff_emptiesIn_paramNodes {ts : List Term} {pss : List (List Piece)}
    (h : List.Forall₂ (fun t ps => Piece.Loses ps ↔ EmptiesIn (nodes t.inPlace)) ts pss) :
    (∃ ps ∈ pss, Piece.Loses ps) ↔ EmptiesIn (paramNodes ts) := by
  induction h with
  | nil => simp [EmptiesIn, paramNodes]
  | cons ht _ ih => rw [List.exists_mem_cons_iff, ht, ih, emptiesIn_paramNodes_cons]

theorem loses_emptyListPieces {d : Dialect} {s : Scope} {inAggregate : Bool} {t : Term}
    {ps : List Piece} (h : t.pieces d s inAggregate = .ok ps) (negated : Bool)
    (ht : Piece.Loses ps ↔ EmptiesIn (nodes t)) :
    Piece.Loses (emptyListPieces ps negated) ↔ EmptiesIn (nodes (.inList t [] negated)) := by
  have hlost : Piece.Loses (emptyListPieces ps negated) ↔ t.bound ≠ [] := by
    simp [emptyListPieces, Piece.loses_withoutPlaces, parameters_pieces h]
  rw [hlost]
  constructor
  · intro hb
    exact ⟨t, negated, by simp [nodes], hb⟩
  · rintro ⟨x, n, hx, hb⟩
    simp only [nodes, allNodes, List.append_nil, List.mem_cons, Term.inList.injEq,
      true_and] at hx
    rcases hx with ⟨rfl, -⟩ | hx
    · exact hb
    · rw [← parameters_pieces h]
      exact Piece.parameters_ne_nil (ht.mpr ⟨x, n, hx, hb⟩)

theorem compositional_loses (d : Dialect) (s : Scope) :
    Compositional d s (fun t ps => Piece.Loses ps ↔ EmptiesIn (nodes t)) where
  field _ _ := by simp [EmptiesIn, nodes]
  bound p := by simp [emptiesIn_toTerm]
  binary _ hl hr := by
    simp [binaryPieces, nodes, emptiesIn_cons, emptiesIn_append, hl, hr]
  connected _ hts := by
    simp [nodes, emptiesIn_cons, Piece.loses_separated, exists_loses_iff_emptiesIn_allNodes hts]
  not ht := by simp [nodes, emptiesIn_cons, ht]
  isNull _ ht := by simp [nodes, emptiesIn_cons, ht]
  inNone negated h ht := loses_emptyListPieces h negated ht
  inList _ ht hvs := by
    simp [nodes, emptiesIn_cons, emptiesIn_append, Piece.loses_separated, ht,
      exists_loses_iff_emptiesIn_allNodes hvs]
  rows _ := by simp [EmptiesIn, nodes]
  aggregate _ _ ht := by simp [nodes, emptiesIn_cons, ht]
  fragment _ hcount hts := by
    rw [nodes, emptiesIn_cons (by simp), Piece.loses_fillSlots (hcount.trans hts.length_eq),
      exists_loses_iff_emptiesIn_paramNodes hts]

/-- The pieces of a term lose something exactly when it holds a list without values whose operand
binds something. -/
theorem loses_pieces {d : Dialect} {s : Scope} {inAggregate : Bool} {t : Term} {ps : List Piece}
    (h : t.pieces d s inAggregate = .ok ps) : Piece.Loses ps ↔ EmptiesIn t.nodes :=
  (compositional_loses d s).of_pieces h

end Term

end RecordMapper
