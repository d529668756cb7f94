import RecordMapper.Text.Case

/-! # Letters in two cases

Where case does not matter, a letter is the same as its small form, and a few small letters are the
same as others that share a capital with them (Unicode 14.0). -/

namespace RecordMapper.Text

/-- The small form of a code point by itself. -/
def smallForm (n : Nat) : Nat :=
  if n = 0x130 then 0x69
  else match capitalRuns.find? (·.holds n) with
    | some r => (n + r.shift).toNat
    | none => n

/-- The other code points with a small form. -/
def capitalsOf (small : Nat) : List Nat :=
  let capitals := capitalRuns.filterMap fun r =>
    let capital : Nat := ((small : Int) - r.shift).toNat
    if r.holds capital ∧ (capital : Int) + r.shift = small then some capital else none
  if small = 0x69 then 0x130 :: capitals else capitals

/-- Small letters that share a capital. -/
def smallMates : List (List Nat) :=
  [[0x69, 0x131], [0x73, 0x17f], [0xb5, 0x3bc], [0x345, 0x3b9, 0x1fbe], [0x390, 0x1fd3],
   [0x3b0, 0x1fe3], [0x3b2, 0x3d0], [0x3b5, 0x3f5], [0x3b8, 0x3d1], [0x3ba, 0x3f0],
   [0x3c0, 0x3d6], [0x3c1, 0x3f1], [0x3c2, 0x3c3], [0x3c6, 0x3d5], [0x432, 0x1c80],
   [0x434, 0x1c81], [0x43e, 0x1c82], [0x441, 0x1c83], [0x442, 0x1c84, 0x1c85], [0x44a, 0x1c86],
   [0x463, 0x1c87], [0xa64b, 0x1c88], [0x1e61, 0x1e9b], [0xfb05, 0xfb06]]

/-- The code points that are the same letter where case does not matter. -/
def sameLetter (n : Nat) : List Nat :=
  let small := smallForm n
  let mates := (smallMates.find? (·.contains small)).getD [small]
  mates.flatMap fun m => m :: capitalsOf m

/-- The code points that are the same letter where the case of ASCII letters does not matter. -/
def sameAsciiLetter (n : Nat) : List Nat :=
  if 65 ≤ n && n ≤ 90 then [n, n + 32]
  else if 97 ≤ n && n ≤ 122 then [n, n - 32]
  else [n]

end RecordMapper.Text
