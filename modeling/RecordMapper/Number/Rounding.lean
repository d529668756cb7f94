/-! # Rounding a quotient

The quotient of two natural numbers, rounded to the nearest integer; a tie goes to the even
neighbour. -/

namespace RecordMapper.Number

/-- The integer nearest to `num / den`, the even one of two that are equally near. -/
def roundQuotient (num den : Nat) : Nat :=
  let q := num / den
  let twice := 2 * (num % den)
  if twice < den then q
  else if den < twice then q + 1
  else q + q % 2

theorem roundQuotient_le (num den : Nat) : roundQuotient num den ≤ num / den + 1 := by
  simp only [roundQuotient]
  split
  · omega
  · split <;> omega

end RecordMapper.Number
