import RecordMapper.Text.Pattern.Attempt

/-! # Searching for patterns

A pattern is tried at one place of a text after the other, and only whether it is found matters. -/

namespace RecordMapper.Text.Pattern

/-- Whether the pattern is found at a place or a later one; `past` stands before, the nearest
character first. -/
def isFoundFrom (p : Pattern) (position : Nat) (past : List Char) : List Char → Bool
  | [] => (firstEnd p ⟨position, past, [], []⟩).isSome
  | d :: ds =>
    (firstEnd p ⟨position, past, d :: ds, []⟩).isSome || isFoundFrom p (position + 1) (d :: past) ds

/-- Whether the pattern is found anywhere in a text. -/
def isFound (p : Pattern) (text : String) : Bool := isFoundFrom p 0 [] text.toList

end RecordMapper.Text.Pattern
