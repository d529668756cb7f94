import RecordMapper.Cast
import RecordMapper.Proofs.Outcome

/-! # Values of a kind

Casting gives `null` or a value of the kind that is cast to, and casting such a value changes
nothing. Loading takes more than casting does, and gives the same wherever casting gives
something. -/

namespace RecordMapper

open Calendar Number Outcome

/-- The values that are of a kind. -/
inductive Kind.Admits : Kind → Value → Prop
  | id (i : Int) : Admits .id (.int i)
  | string (s : String) : Admits .string (.string s)
  | integer (i : Int) : Admits .integer (.int i)
  | float (x : Binary64) : Admits .float (.float x)
  | decimal {d : Decimal} (hfinite : d.isFinite = true) : Admits .decimal (.decimal d)
  | boolean (b : Bool) : Admits .boolean (.bool b)
  | date (d : Date) : Admits .date (.date d)
  | time (t : Time) : Admits .time (.time t)
  | timestamp (t : Timestamp) : Admits .timestamp (.timestamp t)
  | binary (bs : List UInt8) : Admits .binary (.binary bs)
  | uuid (u : Uuid) : Admits .uuid (.uuid u)
  | map (es : Row Value) : Admits .map (.map es)

/-! ## What each cast gives -/

namespace Cast

variable {raw v : Value}

/-- What is read is a value of the form that the reader gives. -/
theorem exists_of_orMismatch {α : Type} {o : Option α} {f : α → Value}
    (h : orMismatch (o.map f) = .ok v) : ∃ x, v = f x := by
  cases o with
  | none => cases h
  | some x => exact ⟨x, (Except.ok.inj h).symm⟩

theorem exists_of_integer (h : integer raw = .ok v) : ∃ i, v = .int i := by
  unfold integer at h
  split at h
  · exact ⟨_, (Except.ok.inj h).symm⟩
  · dsimp only at h
    split at h
    · split at h
      · exact ⟨_, (Except.ok.inj h).symm⟩
      · cases h
      · cases h
    · cases h
  · cases h

theorem exists_of_floatOfInt {i : Int} (h : floatOfInt i = .ok v) : ∃ x, v = .float x := by
  unfold floatOfInt at h
  split at h
  · cases h
  · exact ⟨_, (Except.ok.inj h).symm⟩

theorem exists_of_float (h : float raw = .ok v) : ∃ x, v = .float x := by
  unfold float at h
  split at h
  · exact exists_of_floatOfInt h
  · exact ⟨_, (Except.ok.inj h).symm⟩
  · cases h
  · exact ⟨_, (Except.ok.inj h).symm⟩
  · exact exists_of_orMismatch h
  · cases h

theorem exists_of_finiteDecimal {o : Option Decimal} (h : finiteDecimal o = .ok v) :
    ∃ d, d.isFinite = true ∧ v = .decimal d := by
  unfold finiteDecimal at h
  split at h
  · split at h
    · exact ⟨_, ‹_›, (Except.ok.inj h).symm⟩
    · cases h
  · cases h

theorem exists_of_decimal (h : decimal raw = .ok v) : ∃ d, d.isFinite = true ∧ v = .decimal d := by
  unfold decimal at h
  split at h
  · exact exists_of_finiteDecimal h
  · split at h
    · cases h
    · exact ⟨_, rfl, (Except.ok.inj h).symm⟩
  · exact exists_of_finiteDecimal h
  · exact exists_of_finiteDecimal h
  · cases h

theorem exists_of_boolean (h : boolean raw = .ok v) : ∃ b, v = .bool b := by
  unfold boolean at h
  split at h
  · exact ⟨_, (Except.ok.inj h).symm⟩
  · dsimp only at h
    split at h
    · exact ⟨_, (Except.ok.inj h).symm⟩
    · split at h
      · exact ⟨_, (Except.ok.inj h).symm⟩
      · cases h
  · cases h

theorem exists_of_date (h : date raw = .ok v) : ∃ d, v = .date d := by
  unfold date at h
  split at h
  · exact ⟨_, (Except.ok.inj h).symm⟩
  · exact exists_of_orMismatch h
  · simp only [dateOfParts, Outcome.bind_eq_ok_iff] at h
    obtain ⟨-, -, year, -, -, -, month, -, -, -, day, -, h⟩ := h
    split at h
    · split at h
      · cases h
      · exact exists_of_orMismatch h
    · cases h
  · cases h

theorem exists_of_time (h : time raw = .ok v) : ∃ t, v = .time t := by
  unfold time at h
  split at h
  · exact ⟨_, (Except.ok.inj h).symm⟩
  · exact exists_of_orMismatch h
  · cases h

theorem exists_of_timestamp (h : timestamp raw = .ok v) : ∃ t, v = .timestamp t := by
  unfold timestamp at h
  split at h
  · exact ⟨_, (Except.ok.inj h).symm⟩
  · exact exists_of_orMismatch h
  · cases h

theorem exists_of_uuid (h : uuid raw = .ok v) : ∃ u, v = .uuid u := by
  unfold uuid at h
  split at h
  · exact ⟨_, (Except.ok.inj h).symm⟩
  · exact exists_of_orMismatch h
  · cases h

theorem exists_of_string (h : string raw = .ok v) : ∃ s, v = .string s := by
  unfold string at h
  split at h
  · exact ⟨_, (Except.ok.inj h).symm⟩
  · cases h

theorem exists_of_binary (h : binary raw = .ok v) : ∃ bs, v = .binary bs := by
  unfold binary at h
  split at h
  · exact ⟨_, (Except.ok.inj h).symm⟩
  · cases h

theorem exists_of_map (h : map raw = .ok v) : ∃ es, v = .map es := by
  unfold map at h
  split at h
  · exact ⟨_, (Except.ok.inj h).symm⟩
  · cases h

end Cast

namespace Kind

variable {k : Kind} {raw v : Value}

/-! ## Casting is canonical -/

theorem castPresent_of_cast (h : k.cast raw = .ok v) (hv : v ≠ .null) :
    k.castPresent raw = .ok v := by
  unfold cast at h
  split at h
  · exact absurd (Except.ok.inj h).symm hv
  · exact h

/-- Casting gives `null` or a value of the kind. -/
theorem admits_of_cast (h : k.cast raw = .ok v) (hv : v ≠ .null) : k.Admits v := by
  have h := castPresent_of_cast h hv
  cases k with
  | id =>
      obtain ⟨i, rfl⟩ := Cast.exists_of_integer h
      exact .id i
  | string =>
      obtain ⟨s, rfl⟩ := Cast.exists_of_string h
      exact .string s
  | integer =>
      obtain ⟨i, rfl⟩ := Cast.exists_of_integer h
      exact .integer i
  | float =>
      obtain ⟨x, rfl⟩ := Cast.exists_of_float h
      exact .float x
  | decimal =>
      obtain ⟨d, hfinite, rfl⟩ := Cast.exists_of_decimal h
      exact .decimal hfinite
  | boolean =>
      obtain ⟨b, rfl⟩ := Cast.exists_of_boolean h
      exact .boolean b
  | date =>
      obtain ⟨d, rfl⟩ := Cast.exists_of_date h
      exact .date d
  | time =>
      obtain ⟨t, rfl⟩ := Cast.exists_of_time h
      exact .time t
  | timestamp =>
      obtain ⟨t, rfl⟩ := Cast.exists_of_timestamp h
      exact .timestamp t
  | binary =>
      obtain ⟨bs, rfl⟩ := Cast.exists_of_binary h
      exact .binary bs
  | uuid =>
      obtain ⟨u, rfl⟩ := Cast.exists_of_uuid h
      exact .uuid u
  | map =>
      obtain ⟨es, rfl⟩ := Cast.exists_of_map h
      exact .map es

theorem Admits.cast_eq (h : k.Admits v) : k.cast v = .ok v := by
  cases h with
  | decimal hfinite => exact if_pos hfinite
  | _ => rfl

/-- The values that a cast leaves as they are, besides `null`, are those of the kind. -/
theorem cast_eq_self_iff : k.cast v = .ok v ↔ v = .null ∨ k.Admits v := by
  constructor
  · exact fun h => or_iff_not_imp_left.mpr (admits_of_cast h)
  · rintro (rfl | h)
    · rfl
    · exact h.cast_eq

theorem cast_cast (h : k.cast raw = .ok v) : k.cast v = .ok v :=
  cast_eq_self_iff.mpr (or_iff_not_imp_left.mpr (admits_of_cast h))

/-- No form that only a store has is cast to the kind that it is loaded as. -/
theorem load_of_cast (h : k.cast raw = .ok v) : k.load raw = .ok v := by
  unfold load
  split
  · cases h
  · cases h
  · cases h
  · cases h
  · cases h
  · exact h

/-- What a cast gives is cast to itself, and loading gives it for the raw value and for itself. -/
theorem cast_canonical (h : k.cast raw = .ok v) :
    k.cast v = .ok v ∧ k.load raw = .ok v ∧ k.load v = .ok v :=
  have hv := cast_cast h
  ⟨hv, load_of_cast h, load_of_cast hv⟩

/-- The second of January from its parts: a numeral between blanks, a truth value and a number. -/
theorem cast_canonical_parts :
    let parts : Value :=
      .map [("day", .string " 02 "), ("month", .bool true), ("year", .int 2024)]
    let second : Value := .date ⟨2024, 1, 2, by decide⟩
    date.cast parts = .ok second ∧ date.cast second = .ok second ∧
      date.load parts = .ok second ∧ date.load second = .ok second := by
  intro parts second
  have hcast : date.cast parts = .ok second := rfl
  exact ⟨hcast, cast_canonical hcast⟩

end Kind

end RecordMapper
