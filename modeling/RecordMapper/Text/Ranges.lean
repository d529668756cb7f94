/-! # Ranges of characters

A class of characters is given by ascending ranges of code points. -/

namespace RecordMapper.Text

/-- Ranges of code points, both ends included. -/
abbrev Ranges := List (Nat × Nat)

/-- Whether the code point of a character lies in one of the ranges. -/
def Ranges.contains (rs : Ranges) (c : Char) : Bool :=
  rs.any fun r => r.1 ≤ c.toNat && c.toNat ≤ r.2

@[simp] theorem Ranges.contains_nil (c : Char) : Ranges.contains [] c = false := rfl

theorem Ranges.contains_iff {rs : Ranges} {c : Char} :
    rs.contains c = true ↔ ∃ r ∈ rs, r.1 ≤ c.toNat ∧ c.toNat ≤ r.2 := by
  simp [Ranges.contains]

/-- Ranges contain no character between two bounds that all of them keep clear of. -/
theorem Ranges.not_contains_of_clear {rs : Ranges} {c : Char} {low high : Nat}
    (hlow : low ≤ c.toNat) (hhigh : c.toNat ≤ high)
    (hclear : ∀ r ∈ rs, r.2 < low ∨ high < r.1) : rs.contains c = false := by
  rw [Bool.eq_false_iff, ne_eq, Ranges.contains_iff]
  rintro ⟨r, hr, hlow', hhigh'⟩
  have := hclear r hr
  omega

end RecordMapper.Text
