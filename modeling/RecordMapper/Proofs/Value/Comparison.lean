import RecordMapper.Proofs.Row
import RecordMapper.Value.Equality

/-! # When values are compared

Only a signaling NaN refuses the question whether two values are equal, and only a NaN differs from
itself. -/

namespace RecordMapper

theorem Number.Decimal.compareFinite_self (s : Bool) (c : Nat) (e : Int) :
    compareFinite s c e s c e = .eq := by
  by_cases hc : c = 0
  · simp [compareFinite, hc]
  · simp [compareFinite, compareMagnitude, hc]

namespace Value

/-! ## Values that can be compared -/

mutual

/-- Whether no signaling NaN is in the value. -/
def isQuiet : Value → Bool
  | .decimal d => !d.isSignaling
  | .list xs => allQuiet xs
  | .tuple xs => allQuiet xs
  | .map es => entriesQuiet es
  | _ => true

/-- Whether no signaling NaN is in the values of a list. -/
def allQuiet : List Value → Bool
  | [] => true
  | x :: xs => isQuiet x && allQuiet xs

/-- Whether no signaling NaN is in the values of a map. -/
def entriesQuiet : List (String × Value) → Bool
  | [] => true
  | (_, v) :: es => isQuiet v && entriesQuiet es

end

theorem isSignaling_of_number? {v : Value} {n : Number.Decimal} (h : v.isQuiet = true)
    (hn : v.number? = some n) : n.isSignaling = false := by
  cases v <;> cases hn
  case bool b => rfl
  case int i => rfl
  case float x =>
      cases x with
      | nan => rfl
      | infinity => rfl
      | finite s m e =>
          rw [Number.Decimal.ofBinary64]
          split <;> rfl
  case decimal => simpa [isQuiet] using h

theorem entriesQuiet_iff {es : List (String × Value)} :
    entriesQuiet es = true ↔ ∀ p ∈ es, p.2.isQuiet = true := by
  induction es with
  | nil => simp [entriesQuiet]
  | cons p es ih => simp [entriesQuiet, ih]

mutual

/-- Whether two values are equal can be said if no signaling NaN is in them. -/
theorem exists_equal? : ∀ {v w : Value}, v.isQuiet = true → w.isQuiet = true →
    ∃ b, equal? v w = some b
  | v, w, hv, hw => by
      unfold equal?
      split
      · split
        · exact exists_equalLists? hv hw
        · exact ⟨false, rfl⟩
      · exact exists_equalLists? hv hw
      · split
        · exact exists_equalEntries? hv hw
        · exact ⟨false, rfl⟩
      all_goals try exact ⟨_, rfl⟩
      split
      · rename_i m n hm hn
        rw [sameNumber?, isSignaling_of_number? hv hm, isSignaling_of_number? hw hn]
        exact ⟨_, rfl⟩
      · exact ⟨false, rfl⟩

theorem exists_equalLists? : ∀ {vs ws : List Value}, allQuiet vs = true → allQuiet ws = true →
    ∃ b, equalLists? vs ws = some b
  | [], [], _, _ => ⟨true, rfl⟩
  | [], _ :: _, _, _ => ⟨false, rfl⟩
  | _ :: _, [], _, _ => ⟨false, rfl⟩
  | v :: vs, w :: ws, hvs, hws => by
      rw [allQuiet, Bool.and_eq_true] at hvs hws
      obtain ⟨b, hb⟩ := exists_equal? hvs.1 hws.1
      rw [equalLists?, hb]
      cases b with
      | false => exact ⟨false, rfl⟩
      | true => exact exists_equalLists? hvs.2 hws.2

theorem exists_equalEntries? : ∀ {es : List (String × Value)} {fs : Row Value},
    entriesQuiet es = true → entriesQuiet fs = true → ∃ b, equalEntries? es fs = some b
  | [], _, _, _ => ⟨true, rfl⟩
  | (k, v) :: es, fs, hes, hfs => by
      rw [entriesQuiet, Bool.and_eq_true] at hes
      rw [equalEntries?]
      split
      · exact ⟨false, rfl⟩
      · rename_i w hw
        obtain ⟨b, hb⟩ := exists_equal? hes.1 (entriesQuiet_iff.mp hfs _ (Row.mem_of_find? hw))
        rw [hb]
        cases b with
        | false => exact ⟨false, rfl⟩
        | true => exact exists_equalEntries? hes.2 hfs

end

/-! ## Values that are equal to themselves -/

mutual

/-- Whether no NaN is in the value, and every map in it gives a name once. -/
def isRegular : Value → Bool
  | .float .nan => false
  | .decimal (.nan ..) => false
  | .list xs => allRegular xs
  | .tuple xs => allRegular xs
  | .map es => decide (es.map Prod.fst).Nodup && entriesRegular es
  | _ => true

/-- Whether no NaN is in the values of a list. -/
def allRegular : List Value → Bool
  | [] => true
  | x :: xs => isRegular x && allRegular xs

/-- Whether no NaN is in the values of a map. -/
def entriesRegular : List (String × Value) → Bool
  | [] => true
  | (_, v) :: es => isRegular v && entriesRegular es

end

theorem allRegular_iff {xs : List Value} :
    allRegular xs = true ↔ ∀ x ∈ xs, x.isRegular = true := by
  induction xs with
  | nil => simp [allRegular]
  | cons x xs ih => simp [allRegular, ih]

theorem entriesRegular_iff {es : List (String × Value)} :
    entriesRegular es = true ↔ ∀ p ∈ es, p.2.isRegular = true := by
  induction es with
  | nil => simp [entriesRegular]
  | cons p es ih => simp [entriesRegular, ih]

/-- A number that is no NaN is the same number as itself. -/
theorem sameNumber?_self {v : Value} {n : Number.Decimal} (h : v.isRegular = true)
    (hn : v.number? = some n) : sameNumber? n n = some true := by
  have hfinite : ∀ s c e, sameNumber? (.finite s c e) (.finite s c e) = some true := by
    intro s c e
    simp [sameNumber?, Number.Decimal.isSignaling, Number.Decimal.compare?,
      Number.Decimal.compareFinite_self]
  have hinfinite : ∀ s, sameNumber? (.infinity s) (.infinity s) = some true := by
    intro s
    simp [sameNumber?, Number.Decimal.isSignaling, Number.Decimal.compare?]
  cases v <;> cases hn
  case bool b => exact hfinite _ _ _
  case int i => exact hfinite _ _ _
  case float x =>
      cases x with
      | nan => cases h
      | infinity s => exact hinfinite s
      | finite s m e =>
          rw [Number.Decimal.ofBinary64]
          split
          · exact hfinite _ _ _
          · exact hfinite _ _ _
  case decimal =>
      cases n with
      | finite s c e => exact hfinite s c e
      | infinity s => exact hinfinite s
      | nan => cases h

mutual

/-- A value is equal to itself if no NaN is in it. -/
theorem equal?_self : ∀ {v : Value}, v.isRegular = true → equal? v v = some true
  | v, h => by
      cases v with
      | list xs => simpa [equal?] using equalLists?_self h
      | tuple xs => simpa [equal?] using equalLists?_self h
      | map es =>
          rw [isRegular, Bool.and_eq_true, decide_eq_true_eq] at h
          rw [equal?, if_pos rfl]
          exact equalEntries?_self h.2 fun p hp => Row.find?_of_mem h.1 hp
      | bool b => exact sameNumber?_self h rfl
      | int i => exact sameNumber?_self h rfl
      | float x => exact sameNumber?_self h rfl
      | decimal d => exact sameNumber?_self h rfl
      | time t => simp [equal?, Calendar.Time.compare?]
      | timestamp t => simp [equal?, Calendar.Timestamp.compare?]
      | _ => simp [equal?]

theorem equalLists?_self : ∀ {vs : List Value}, allRegular vs = true →
    equalLists? vs vs = some true
  | [], _ => rfl
  | v :: vs, h => by
      rw [allRegular, Bool.and_eq_true] at h
      rw [equalLists?, equal?_self h.1]
      exact equalLists?_self h.2

theorem equalEntries?_self : ∀ {es : List (String × Value)} {fs : Row Value},
    entriesRegular es = true → (∀ p ∈ es, fs.find? p.1 = some p.2) →
      equalEntries? es fs = some true
  | [], _, _, _ => rfl
  | (k, v) :: es, fs, h, hfind => by
      rw [entriesRegular, Bool.and_eq_true] at h
      rw [equalEntries?, hfind (k, v) List.mem_cons_self]
      dsimp only
      rw [equal?_self h.1]
      exact equalEntries?_self h.2 fun p hp => hfind p (List.mem_cons_of_mem (k, v) hp)

end

end Value

end RecordMapper
