import RecordMapper.Cast
import RecordMapper.Proofs.Calendar.ClockText
import RecordMapper.Proofs.Calendar.Instants
import RecordMapper.Proofs.Number.DecimalText

/-! # Values that a key does not tell apart

Equal values of one kind can be written differently, as `1.0` and `1.00` are; then a store keeps
different texts for them. Values of one key that are stored in the same form are the same. -/

namespace RecordMapper.Value

theorem tag_eq_of_identical? {v w : Value} (h : identical? v w = some true) : v.tag = w.tag := by
  unfold identical? at h
  split at h
  · rfl
  · unfold equalInKind? at h
    split at h
    · assumption
    · cases h

/-- A value of the kind of `null` is `null`. -/
theorem isNull_eq_of_identical? {v w : Value} (h : identical? v w = some true) :
    v.isNull = w.isNull := by
  have htag := tag_eq_of_identical? h
  cases v <;> cases w <;> first | rfl | cases htag

/-- Values of one key that a store keeps in one form are one value. Only for decimal numbers and
times is there something to show: their texts keep the digits and the offset. -/
theorem eq_of_identical?_of_dump? {v w : Value} (h : identical? v w = some true)
    (hkey : w.isHashable = true) (hdump : v.dump? = w.dump?) : v = w := by
  have htag := tag_eq_of_identical? h
  cases v <;> cases w <;> try (cases htag; done)
  case bool.bool b c => cases b <;> cases c <;> first | rfl | cases hdump
  case date.date d e =>
      have htext : d.text = e.text := string.inj (Option.some.inj hdump)
      rw [Calendar.Date.text_injective htext]
  case uuid.uuid a b =>
      simp only [identical?, equalInKind?, equal?, tag, if_true] at h
      simpa using h
  case decimal.decimal d e =>
      have htext : d.text = e.text := string.inj (Option.some.inj hdump)
      rw [Number.Decimal.text_injective htext]
  case time.time t u =>
      have htext : t.text = u.text := string.inj (Option.some.inj hdump)
      rw [Calendar.Time.text_injective htext]
  case timestamp.timestamp t u =>
      have htext : t.text = u.text := string.inj (Option.some.inj hdump)
      rw [Calendar.Timestamp.text_injective htext]
  case map.map => cases hkey
  all_goals exact Option.some.inj hdump

/-! ## Values with one form -/

open Number.Decimal in
/-- Finite numbers are equal when both are zero, or when they have one sign and one magnitude. -/
theorem compareFinite_eq_cases {s t : Bool} {m n : Nat} {e f : Int}
    (h : compareFinite s m e t n f = .eq) :
    m = 0 ∧ n = 0 ∨ s = t ∧ (compareMagnitude m e n f = .eq ∨ compareMagnitude n f m e = .eq) := by
  unfold compareFinite at h
  by_cases hzero : m = 0 ∧ n = 0
  · exact .inl hzero
  · rw [if_neg hzero] at h
    split at h
    · split at h <;> cases h
    · split at h
      · split at h <;> cases h
      · split at h
        · split at h <;> cases h
        · rename_i hsign
          refine .inr ⟨by simpa using hsign, ?_⟩
          split at h
          · exact .inr h
          · exact .inl h

open Number.Decimal in
/-- Magnitudes without an exponent that are equal are the same. -/
theorem eq_of_compareMagnitude {m n : Nat} (h : compareMagnitude m 0 n 0 = .eq) : m = n := by
  unfold compareMagnitude at h
  dsimp only at h
  split at h
  · cases h
  · split at h
    · cases h
    · simpa [Nat.compare_eq_eq] using h

/-- Integers that are equal as numbers are the same. -/
theorem eq_of_equal?_int {i j : Int} (h : equal? (.int i) (.int j) = some true) : i = j := by
  have hcompare : Number.Decimal.compareFinite (i < 0) i.natAbs 0 (j < 0) j.natAbs 0 = .eq := by
    simpa [equal?, number?, sameNumber?, Number.Decimal.ofInt, Number.Decimal.isSignaling,
      Number.Decimal.compare?] using h
  rcases compareFinite_eq_cases hcompare with ⟨hi, hj⟩ | ⟨hsign, hmagnitude⟩
  · omega
  · have habs : i.natAbs = j.natAbs := by
      rcases hmagnitude with hmagnitude | hmagnitude
      · exact eq_of_compareMagnitude hmagnitude
      · exact (eq_of_compareMagnitude hmagnitude).symm
    have hsign : i < 0 ↔ j < 0 := by simpa using hsign
    omega

mutual

/-- Whether the value is written in one form only: no decimal and no double-precision number is in
it, no time with an offset, and no collection but tuples. -/
def hasOneForm : Value → Bool
  | .float _ => false
  | .decimal _ => false
  | .time t => t.offset.isNone
  | .timestamp t => t.time.offset.isNone
  | .list _ => false
  | .tuple xs => allHaveOneForm xs
  | .map _ => false
  | _ => true

/-- Whether every value of a list is written in one form only. -/
def allHaveOneForm : List Value → Bool
  | [] => true
  | x :: xs => hasOneForm x && allHaveOneForm xs

end

theorem eq_of_equalInKind? {v w : Value} (hform : w.hasOneForm = true)
    (htuple : ∀ xs, v ≠ .tuple xs) (h : equalInKind? v w = some true) : v = w := by
  unfold equalInKind? at h
  split at h
  · rename_i htag
    cases v <;> cases w <;> try (cases htag; done)
    case bool.bool b c => cases b <;> cases c <;> first | rfl | exact absurd h (by decide)
    case int.int i j => rw [eq_of_equal?_int h]
    case time.time t u =>
        have hcompare : t.compare? u = some .eq := by simpa [equal?] using h
        rw [Calendar.Time.eq_of_compare? (Option.isNone_iff_eq_none.mp hform) hcompare]
    case timestamp.timestamp t u =>
        have hcompare : t.compare? u = some .eq := by simpa [equal?] using h
        rw [Calendar.Timestamp.eq_of_compare? (Option.isNone_iff_eq_none.mp hform) hcompare]
    case tuple.tuple xs ys => exact absurd rfl (htuple xs)
    case null.null => rfl
    all_goals first | simpa [equal?] using h | cases hform
  · cases h

mutual

/-- A value of the key of one that is written in one form only is that value. -/
theorem eq_of_identical?_of_hasOneForm : ∀ {v w : Value}, w.hasOneForm = true →
    identical? v w = some true → v = w
  | v, w, hform, h => by
      cases v with
      | tuple xs =>
          cases w with
          | tuple ys => rw [eq_of_identicalLists? hform h]
          | _ => cases tag_eq_of_identical? h
      | _ => exact eq_of_equalInKind? hform nofun h

theorem eq_of_identicalLists? : ∀ {vs ws : List Value}, allHaveOneForm ws = true →
    identicalLists? vs ws = some true → vs = ws
  | [], ws, _, h => by
      cases ws with
      | nil => rfl
      | cons w ws => cases h
  | v :: vs, ws, hform, h => by
      cases ws with
      | nil => cases h
      | cons w ws =>
          rw [allHaveOneForm, Bool.and_eq_true] at hform
          rw [identicalLists?] at h
          split at h
          · rename_i hv
            rw [eq_of_identical?_of_hasOneForm hform.1 hv, eq_of_identicalLists? hform.2 h]
          · rename_i hv
            exact absurd h hv

end

end RecordMapper.Value
