import Mathlib.Tactic.Ring
import RecordMapper.Number.Binary64

/-! # Integers beyond the doubles

The doubles end below `2 ^ 1024`. An integer has none next to it from half a unit of the last place
before that end on. -/

namespace RecordMapper.Number

/-- A quotient is rounded up to an even number from half a unit before it on. -/
theorem roundQuotient_eq_iff_of_lt {n d q : Nat} (hd : 0 < d) (hlt : n / (2 * d) < 2 * q + 2) :
    roundQuotient n (2 * d) = 2 * q + 2 ↔ 4 * (d * q) + 3 * d ≤ n := by
  have hn := Nat.div_add_mod n (2 * d)
  have hrest : n % (2 * d) < 2 * d := Nat.mod_lt n (by omega)
  by_cases hlast : n / (2 * d) = 2 * q + 1
  · have hwhole : 2 * d * (2 * q + 1) = 4 * (d * q) + 2 * d := by ring
    rw [hlast, hwhole] at hn
    simp only [roundQuotient, hlast]
    split
    · omega
    · split <;> omega
  · have hround := roundQuotient_le n (2 * d)
    have hfar : 2 * d * (n / (2 * d)) ≤ 2 * d * (2 * q) := Nat.mul_le_mul_left _ (by omega)
    have hwhole : 2 * d * (2 * q) = 4 * (d * q) := by ring
    omega

namespace Binary64

/-- The least magnitude of an integer that has no double. -/
def leastOverflow : Nat := 2 ^ 1024 - 2 ^ 970

theorem leastOverflow_eq : leastOverflow = 2 ^ (54 + 970) - 2 ^ 970 := by decide +kernel

theorem exponentFor_le (n d : Nat) :
    exponentFor n d ≤ max ((Nat.log2 n : Int) - Nat.log2 d - 52) leastExponent := by
  simp only [exponentFor]
  split <;> omega

/-- The mantissa of an integer that fills it begins with its first bit. -/
theorem exponentFor_one {n : Nat} (hn : n ≠ 0) (hlog : 52 ≤ Nat.log2 n) :
    exponentFor n 1 = Nat.log2 n - 52 := by
  obtain ⟨k, hk⟩ := Nat.exists_eq_add_of_le hlog
  have hfirst : 2 ^ (k + 52) ≤ n := by
    rw [Nat.add_comm k, ← hk]
    exact Nat.log2_self_le hn
  have hguess : (Nat.log2 n : Int) - Nat.log2 1 - 52 = k := by
    have hone : Nat.log2 1 = 0 := rfl
    omega
  have hscaled : ¬ (scaledBy n 1 k).1 < (scaledBy n 1 k).2 * Nat.pow 2 52 := by
    simp only [scaledBy, shiftUp, Nat.pow_eq, Int.toNat_neg_natCast, Int.toNat_natCast]
    rw [Nat.pow_add] at hfirst
    omega
  simp only [exponentFor, hguess, if_neg hscaled, leastExponent]
  omega

/-- A mantissa of 53 bits is rounded up to the next power of two from half a unit before it on. -/
theorem roundQuotient_full_iff (k : Nat) {n : Nat} (hn : n < 2 ^ (54 + k)) :
    roundQuotient n (2 ^ (1 + k)) = 2 ^ 53 ↔ 2 ^ (54 + k) - 2 ^ k ≤ n := by
  have hpos : 0 < 2 ^ k := Nat.two_pow_pos k
  rw [pow_add] at hn ⊢
  rw [pow_add, pow_one]
  generalize 2 ^ k = d at hn hpos ⊢
  have hlt : n / (2 * d) < 2 * (2 ^ 52 - 1) + 2 := Nat.div_lt_of_lt_mul (by omega)
  have hround := roundQuotient_eq_iff_of_lt hpos hlt
  omega

theorem shiftUp_one (k : Nat) : shiftUp 1 (k : Nat) = 2 ^ k := Nat.one_mul _

/-- A quotient has no double when the exponent of its mantissa, once rounded, is too large. -/
theorem ofRatio_eq_infinity_iff {n d a b : Nat} (hn : n ≠ 0)
    (hscaled : scaledBy n d (exponentFor n d) = (a, b)) {s t : Bool} :
    ofRatio s n d = .infinity t ↔
      (largestExponent < exponentFor n d ∨
        largestExponent < exponentFor n d + 1 ∧ roundQuotient a b = Nat.pow 2 53) ∧ t = s := by
  rw [ofRatio, if_neg hn]
  extract_lets e
  split
  rename_i a' b' hab
  obtain ⟨rfl, rfl⟩ := Prod.mk.inj (hscaled.symm.trans hab)
  extract_lets m
  split
  rename_i m' e' hround
  have hexponent : e' > largestExponent ↔
      largestExponent < e ∨ largestExponent < e + 1 ∧ m = Nat.pow 2 53 := by
    by_cases hm : m = Nat.pow 2 53
    · rw [if_pos hm] at hround
      obtain ⟨-, rfl⟩ := Prod.mk.inj hround
      have hcarried : e + 1 > largestExponent ↔
          largestExponent < e ∨ largestExponent < e + 1 := by omega
      rwa [and_iff_left hm]
    · rw [if_neg hm] at hround
      obtain ⟨-, rfl⟩ := Prod.mk.inj hround
      exact ⟨.inl, fun h => h.resolve_right fun hcarried => hm hcarried.2⟩
  rw [← hexponent]
  by_cases he : e' > largestExponent
  · rw [if_pos he, infinity.injEq, and_iff_right he, eq_comm]
  · rw [if_neg he]
    exact ⟨nofun, fun h => absurd h.1 he⟩

theorem ofRatio_one_eq_infinity_iff {n : Nat} {s t : Bool} :
    ofRatio s n 1 = .infinity t ↔ leastOverflow ≤ n ∧ t = s := by
  have hleast : 0 < leastOverflow ∧ 2 ^ 1023 ≤ leastOverflow ∧ leastOverflow ≤ 2 ^ 1024 := by
    decide +kernel
  by_cases hn : n = 0
  · subst hn
    simp [ofRatio, zero, hleast.1.ne']
  have hbelow : ∀ k, Nat.log2 n < k ↔ n < 2 ^ k := fun k => Nat.log2_lt hn
  have hexponent := exponentFor_le n 1
  have hone : Nat.log2 1 = 0 := rfl
  obtain ⟨⟨a, b⟩, hscaled⟩ : ∃ p, scaledBy n 1 (exponentFor n 1) = p := ⟨_, rfl⟩
  rw [ofRatio_eq_infinity_iff hn hscaled]
  refine and_congr_left fun _ => ?_
  simp only [largestExponent, leastExponent] at hexponent ⊢
  rcases Nat.lt_trichotomy (Nat.log2 n) 1023 with hsmall | hlast | hlarge
  · have hlt : n < 2 ^ 1023 := (hbelow 1023).mp hsmall
    have hfits : ¬ leastOverflow ≤ n := fun h => absurd (hleast.2.1.trans h) (Nat.not_le.mpr hlt)
    constructor
    · intro h
      omega
    · intro h
      exact absurd h hfits
  · have hlt : n < 2 ^ (54 + 970) := (hbelow (54 + 970)).mp (by omega)
    have hwhole : exponentFor n 1 = ((1 + 970 : Nat) : Int) := by
      have := exponentFor_one hn (by omega)
      omega
    have hunits : a = n ∧ b = 2 ^ (1 + 970) := by
      rw [hwhole, scaledBy, shiftUp_one] at hscaled
      obtain ⟨rfl, rfl⟩ := Prod.mk.inj hscaled
      exact ⟨Nat.mul_one n, rfl⟩
    rw [hunits.1, hunits.2, hwhole, leastOverflow_eq, ← roundQuotient_full_iff 970 hlt]
    exact ⟨fun h => (h.resolve_left (by decide)).2, fun h => .inr ⟨by decide, h⟩⟩
  · have hge : 2 ^ 1024 ≤ n := Nat.not_lt.mp fun h => absurd ((hbelow 1024).mpr h) (by omega)
    have hwhole := exponentFor_one hn (by omega)
    constructor
    · intro _
      exact hleast.2.2.trans hge
    · intro _
      omega

/-- An integer has no double when its magnitude is too large, and only then. -/
theorem ofInt_eq_infinity_iff {i : Int} {s : Bool} :
    ofInt i = .infinity s ↔ leastOverflow ≤ i.natAbs ∧ s = decide (i < 0) :=
  ofRatio_one_eq_infinity_iff

end Binary64

end RecordMapper.Number
