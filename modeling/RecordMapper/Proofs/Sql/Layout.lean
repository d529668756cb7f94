import RecordMapper.Proofs.Sql.Pieces

/-! # The layout of a statement

The layout of a term says where in its text the placeholders stand and which digits were written by
hand. It is read off the term alone. The pieces of a term have its layout, whatever the dialect and
the scope are. -/

namespace RecordMapper

/-- What stands at one place of a statement: a placeholder, a digit that was written by hand, or
anything else. -/
inductive Cell where
  | place
  | digit
  | other
deriving DecidableEq

namespace Cell

/-- The cell of a character that was written by hand. -/
def ofChar (c : Char) : Cell := if c.isDigit then .digit else .other

/-- Lists of cells with something other than a digit between them. -/
def separated : List (List Cell) → List Cell
  | [] => []
  | [cs] => cs
  | cs :: rest => cs ++ .other :: separated rest

/-- Parts of a fragment with cells in its slots. -/
def fillSlots : List Fragment.Part → List (List Cell) → List Cell
  | [], _ => []
  | .text cs :: parts, params => cs.map ofChar ++ fillSlots parts params
  | .slot :: parts, [] => fillSlots parts []
  | .slot :: parts, cs :: params => cs ++ fillSlots parts params

end Cell

/-! ## The layout of a term -/

namespace Term

mutual

/-- The layout of a term. -/
def layout : Term → List Cell
  | .field .. => [.other, .other, .other]
  | .literal _ => [.place]
  | .held _ => [.place]
  | .binary _ l r => .other :: layout l ++ .other :: layout r ++ [.other]
  | .connected _ ts => .other :: Cell.separated (layouts ts) ++ [.other]
  | .not t => .other :: layout t ++ [.other]
  | .isNull t _ => .other :: layout t ++ [.other]
  | .inList _ [] _ => [.other]
  | .inList t (v :: vs) _ =>
    .other :: layout t ++ .other :: Cell.separated (layout v :: layouts vs) ++ [.other]
  | .aggregate _ none _ => [.other]
  | .aggregate _ (some t) _ => .other :: .other :: layout t ++ [.other]
  | .fragment raw ps =>
    match Fragment.split raw with
    | .ok parts => Cell.fillSlots parts (paramLayouts ps)
    | .error _ => []
  | .alias t _ => layout t
  | .order .. => []
  | .pair .. => []
  | .plain _ => []

/-- The layouts of the terms of a list. -/
def layouts : List Term → List (List Cell)
  | [] => []
  | t :: ts => layout t :: layouts ts

/-- The layouts of the parameters of a fragment. -/
def paramLayouts : List Term → List (List Cell)
  | [] => []
  | t :: ts =>
    (match Parameter.ofTerm? t with
      | some _ => [.place]
      | none => layout t) :: paramLayouts ts

end

/-- A placeholder of the term stands right before a digit that was written by hand. -/
def Fuses (t : Term) : Prop := [.place, .digit] <:+: t.layout

instance (t : Term) : Decidable t.Fuses := inferInstanceAs (Decidable (_ <:+: _))

end Term

/-! ## The layout of pieces -/

namespace Piece

/-- The cells of a piece. -/
def cells : Piece → List Cell
  | .word _ => [.other]
  | .raw cs => cs.map Cell.ofChar
  | .name _ => [.other]
  | .slot _ => [.place]
  | .unplaced _ => []

/-- The layout of pieces. -/
def layout (ps : List Piece) : List Cell := ps.flatMap cells

@[simp] theorem layout_nil : layout [] = [] := rfl

@[simp] theorem layout_cons (p : Piece) (ps : List Piece) :
    layout (p :: ps) = p.cells ++ layout ps := rfl

@[simp] theorem layout_append (ps qs : List Piece) :
    layout (ps ++ qs) = layout ps ++ layout qs := by
  simp [layout]

@[simp] theorem layout_withoutPlaces (ps : List Piece) : layout (withoutPlaces ps) = [] := by
  induction ps with
  | nil => rfl
  | cons p ps ih => cases p <;> simp [cells, withoutPlaces, ih]

theorem layout_separated (separator : String) (pss : List (List Piece)) :
    layout (separated separator pss) = Cell.separated (pss.map layout) := by
  induction pss with
  | nil => rfl
  | cons ps pss ih =>
      cases pss with
      | nil => rfl
      | cons qs pss => simpa [separated, Cell.separated, cells] using ih

theorem layout_fillSlots (parts : List Fragment.Part) (pss : List (List Piece)) :
    layout (Term.fillSlots parts pss) = Cell.fillSlots parts (pss.map layout) := by
  induction parts generalizing pss with
  | nil => rfl
  | cons part parts ih =>
      cases part with
      | text cs => simp [Term.fillSlots, Cell.fillSlots, cells, ih]
      | slot => cases pss <;> simp [Term.fillSlots, Cell.fillSlots, ih]

end Piece

namespace Term

theorem paramLayouts_cons (t : Term) (ts : List Term) :
    paramLayouts (t :: ts) = t.inPlace.layout :: paramLayouts ts := by
  rw [paramLayouts]
  split
  · rename_i p hp
    rw [inPlace_of_some hp]
    cases p <;> rfl
  · rename_i hp
    rw [inPlace_of_none hp]

theorem layouts_eq_of_forall₂ {ts : List Term} {pss : List (List Piece)}
    (h : List.Forall₂ (fun t ps => Piece.layout ps = layout t) ts pss) :
    pss.map Piece.layout = layouts ts := by
  induction h with
  | nil => rfl
  | cons ht _ ih => rw [List.map_cons, ht, ih, layouts]

theorem paramLayouts_eq_of_forall₂ {ts : List Term} {pss : List (List Piece)}
    (h : List.Forall₂ (fun t ps => Piece.layout ps = layout t.inPlace) ts pss) :
    pss.map Piece.layout = paramLayouts ts := by
  induction h with
  | nil => rfl
  | cons ht _ ih => rw [List.map_cons, ht, ih, paramLayouts_cons]

theorem compositional_layout (d : Dialect) (s : Scope) :
    Compositional d s (fun t ps => Piece.layout ps = layout t) where
  field _ _ := rfl
  bound p := by cases p <;> rfl
  binary _ hl hr := by simp [binaryPieces, layout, Piece.cells, hl, hr]
  connected _ hts := by
    simp [layout, Piece.cells, Piece.layout_separated, layouts_eq_of_forall₂ hts]
  not ht := by simp [layout, Piece.cells, ht]
  isNull _ ht := by simp [layout, Piece.cells, ht]
  inNone _ _ _ := by simp [emptyListPieces, layout, Piece.cells]
  inList _ ht hvs := by
    simp [layout, Piece.cells, Piece.layout_separated, ht, layouts_eq_of_forall₂ hvs, layouts]
  rows _ := rfl
  aggregate _ _ ht := by simp [layout, Piece.cells, ht]
  fragment hparts _ hts := by
    simp [layout, hparts, Piece.layout_fillSlots, paramLayouts_eq_of_forall₂ hts]

/-- The pieces of a term have the layout of the term. -/
theorem layout_pieces {d : Dialect} {s : Scope} {inAggregate : Bool} {t : Term}
    {ps : List Piece} (h : t.pieces d s inAggregate = .ok ps) : Piece.layout ps = t.layout :=
  (compositional_layout d s).of_pieces h

end Term

end RecordMapper
