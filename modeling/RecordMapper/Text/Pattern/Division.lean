import RecordMapper.Text.Pattern.Attempt

/-! # Dividing texts

Where two patterns are found one right after the other, a mark is put between what is found of the
one and of the other. The text is read once, and what has been found is not looked at again. -/

namespace RecordMapper.Text.Pattern

/-- Where two patterns are found one right after the other: the place between the two, and the one
after both. -/
structure Junction where
  middle : Cursor
  last : Cursor
deriving DecidableEq, Repr

/-- The first way to find two patterns at a place, one right after the other. -/
def junction? (p q : Pattern) (c : Cursor) : Option Junction := do
  let middle ← attempt p c fun d => (firstEnd q d).map fun _ => d
  let last ← firstEnd q middle
  return ⟨middle, last⟩

/-- A text divided from a place on; `past` stands before it, the nearest character first. A place is
passed over if there is no character in what is found of both patterns. -/
def divideFrom (mark : Char) (p q : Pattern) (position : Nat) (past : List Char) :
    List Char → List Char
  | [] => []
  | d :: ds =>
    let here : Cursor := ⟨position, past, d :: ds, []⟩
    match junction? p q here with
    | some ⟨middle, last⟩ =>
      if last.rest.length ≤ ds.length then
        here.textTo middle ++ mark :: middle.textTo last ++
          divideFrom mark p q last.position last.past last.rest
      else d :: divideFrom mark p q (position + 1) (d :: past) ds
    | none => d :: divideFrom mark p q (position + 1) (d :: past) ds
termination_by cs => cs.length

/-- The text with a mark between two patterns wherever they are found one right after the other. -/
def divide (mark : Char) (p q : Pattern) (cs : List Char) : List Char :=
  divideFrom mark p q 0 [] cs

end RecordMapper.Text.Pattern
