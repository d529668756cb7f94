import RecordMapper.Proofs.Calendar.IsoReading
import RecordMapper.Proofs.Number.DecimalReading
import RecordMapper.Proofs.Value.Canonical
import RecordMapper.Proofs.Value.UuidReading

/-! # Values that a store hands back

Casting gives values of the kind that is cast to. A value of a kind that is written for a store and
loaded as that kind is the same value, but for times whose offset is a part of a second: their
offset comes back as universal time. -/

namespace RecordMapper

open Calendar Number Text

/-! ## Values of a kind -/

/-- The values that a field of a kind has besides `null`. -/
inductive Kind.Holds : Kind → Value → Prop
  | id (i : Int) : Holds .id (.int i)
  | string (s : String) : Holds .string (.string s)
  | integer (i : Int) : Holds .integer (.int i)
  | float (x : Binary64) : Holds .float (.float x)
  | decimal {d : Decimal} (hfinite : d.isFinite = true) (hlimits : d.InLimits) :
      Holds .decimal (.decimal d)
  | boolean (b : Bool) : Holds .boolean (.bool b)
  | date (d : Date) : Holds .date (.date d)
  | time (t : Time) : Holds .time (.time t)
  | timestamp (t : Timestamp) : Holds .timestamp (.timestamp t)
  | binary (bs : List UInt8) : Holds .binary (.binary bs)
  | uuid (u : Uuid) : Holds .uuid (.uuid u)
  | map (es : Row Value) : Holds .map (.map es)

/-- A decimal number has exponents that the arithmetic allows, as all that it makes have. -/
def Value.InLimits : Value → Prop
  | .decimal d => d.InLimits
  | _ => True

namespace Cast

variable {raw v : Value}

theorem holds_of_finiteDecimal {o : Option Decimal} (ho : ∀ d, o = some d → d.InLimits)
    (h : finiteDecimal o = .ok v) : Kind.decimal.Holds v := by
  unfold finiteDecimal at h
  split at h
  · rename_i d
    split at h
    · cases h
      exact .decimal ‹_› (ho d rfl)
    · cases h
  · cases h

theorem holds_of_decimal (hraw : raw.InLimits) (h : decimal raw = .ok v) : Kind.decimal.Holds v := by
  unfold decimal at h
  split at h
  · exact holds_of_finiteDecimal (fun d hd => Option.some.inj hd ▸ hraw) h
  · split at h
    · cases h
    · rename_i hshort
      cases h
      exact .decimal rfl (Decimal.inLimits_ofInt (Nat.le_of_not_lt hshort))
  · exact holds_of_finiteDecimal (fun _ => Decimal.inLimits_of_ofChars?) h
  · exact holds_of_finiteDecimal (fun _ => Decimal.inLimits_of_ofChars?) h
  · cases h

end Cast

/-- Casting gives `null` or a value of the kind. -/
theorem Kind.holds_of_cast {k : Kind} {raw v : Value} (hraw : raw.InLimits)
    (h : k.cast raw = .ok v) (hv : v ≠ .null) : k.Holds v := by
  cases admits_of_cast h hv with
  | decimal _ => exact Cast.holds_of_decimal hraw (castPresent_of_cast h hv)
  | _ => constructor

/-! ## Storing and loading -/

namespace Value

/-- The value that is loaded when the value has been stored. -/
def asRead : Value → Value
  | .time t => .time t.asRead
  | .timestamp t => .timestamp t.asRead
  | v => v

/-- Whether the value is a time whose offset is a part of a second. -/
def HasSlightOffset : Value → Prop
  | .time t => t.HasSlightOffset
  | .timestamp t => t.time.HasSlightOffset
  | _ => False

theorem asRead_eq_iff (v : Value) : v.asRead = v ↔ ¬v.HasSlightOffset := by
  cases v with
  | time t => simpa [asRead, HasSlightOffset] using t.asRead_eq_iff
  | timestamp t => simpa [asRead, HasSlightOffset] using t.asRead_eq_iff
  | _ => simp [asRead, HasSlightOffset]

end Value

namespace Cast

theorem spellOutZulu_eq_self {cs : List Char} (h : cs.all isKept = true) :
    spellOutZulu cs = cs := by
  refine if_neg fun hlast => ?_
  have hzulu : isKept 'Z' = true := List.all_eq_true.mp h _ (List.mem_of_getLast? hlast)
  exact absurd hzulu (by decide)

/-- A reader gets a text that is kept whole as it was written. -/
theorem orMismatch_trim {α : Type} (read : List Char → Option α) {f : α → Value} {cs : List Char}
    {x : α} (hkept : cs.all isKept = true) (hread : read cs = some x) :
    orMismatch ((read (trim (String.ofList cs).toList)).map f) = .ok (f x) := by
  rw [String.toList_ofList, trim_eq_self hkept, hread]
  rfl

end Cast

namespace Kind

theorem load_decimalText {d : Decimal} (hfinite : d.isFinite = true) (hlimits : d.InLimits) :
    decimal.load (.string d.text) = .ok (.decimal d) := by
  have hload : ∀ s, decimal.load (.string s) = Cast.finiteDecimal (Decimal.ofChars? s.toList) :=
    fun _ => rfl
  rw [hload, Decimal.text, String.toList_ofList, Decimal.ofChars?_chars hfinite hlimits,
    Cast.finiteDecimal, if_pos hfinite]

theorem load_dateText (d : Date) : date.load (.string d.text) = .ok (.date d) := by
  have hload : ∀ s, date.load (.string s) =
      Cast.orMismatch ((Date.ofChars? (trim s.toList)).map .date) := fun _ => rfl
  rw [hload, Date.text, Cast.orMismatch_trim Date.ofChars? d.all_isKept d.ofChars?_chars]

theorem load_timeText (t : Time) : time.load (.string t.text) = .ok (.time t.asRead) := by
  have hload : ∀ s, time.load (.string s) =
      Cast.orMismatch ((Time.ofChars? (trim s.toList)).map .time) := fun _ => rfl
  rw [hload, Time.text, Cast.orMismatch_trim Time.ofChars? t.all_isKept t.ofChars?_chars]

theorem load_timestampText (t : Timestamp) :
    timestamp.load (.string t.text) = .ok (.timestamp t.asRead) := by
  have hload : ∀ s, timestamp.load (.string s) = Cast.orMismatch
      ((Timestamp.ofChars? (Cast.spellOutZulu (trim s.toList))).map .timestamp) := fun _ => rfl
  have hread : Timestamp.ofChars? (Cast.spellOutZulu t.chars) = some t.asRead := by
    rw [Cast.spellOutZulu_eq_self t.all_isKept, t.ofChars?_chars]
  rw [hload, Timestamp.text]
  exact Cast.orMismatch_trim (fun cs => Timestamp.ofChars? (Cast.spellOutZulu cs)) t.all_isKept
    hread

theorem load_uuidText (u : Uuid) : uuid.load (.string u.text) = .ok (.uuid u) := by
  have hload : ∀ s, uuid.load (.string s) =
      Cast.orMismatch ((Uuid.ofChars? (trim s.toList)).map .uuid) := fun _ => rfl
  rw [hload, Uuid.text, Cast.orMismatch_trim Uuid.ofChars? u.all_isKept u.ofChars?_chars]

/-- A value of a kind other than maps is stored, and loaded again. -/
theorem load_dump {k : Kind} {v : Value} (hk : k ≠ .map) (h : k.Holds v) :
    ∃ stored, v.dump? = some stored ∧ k.load stored = .ok v.asRead := by
  cases h with
  | id i => exact ⟨_, rfl, rfl⟩
  | string s => exact ⟨_, rfl, rfl⟩
  | integer i => exact ⟨_, rfl, rfl⟩
  | float x => exact ⟨_, rfl, rfl⟩
  | decimal hfinite hlimits => exact ⟨_, rfl, load_decimalText hfinite hlimits⟩
  | boolean b => cases b <;> exact ⟨_, rfl, rfl⟩
  | date d => exact ⟨_, rfl, load_dateText d⟩
  | time t => exact ⟨_, rfl, load_timeText t⟩
  | timestamp t => exact ⟨_, rfl, load_timestampText t⟩
  | binary bs => exact ⟨_, rfl, rfl⟩
  | uuid u => exact ⟨_, rfl, load_uuidText u⟩
  | map es => exact absurd rfl hk

/-- What a cast gives is stored and loaded as the same value, except for a time whose offset is a
part of a second. -/
theorem load_dump_of_cast {k : Kind} {raw v : Value} (hk : k ≠ .map) (hraw : raw.InLimits)
    (hcast : k.cast raw = .ok v) (hv : v ≠ .null) :
    ∃ stored, v.dump? = some stored ∧ k.load stored = .ok v.asRead ∧
      (k.load stored = .ok v ↔ ¬v.HasSlightOffset) := by
  obtain ⟨stored, hdump, hload⟩ := load_dump hk (holds_of_cast hraw hcast hv)
  refine ⟨stored, hdump, hload, ?_⟩
  rw [hload, ← v.asRead_eq_iff]
  rw [Except.ok.injEq]

/-- Noon on a clock that is half a second ahead. -/
theorem load_dump_of_cast_slight :
    let t : Time := ⟨12, 0, 0, 0, by decide, some ⟨500000, by decide⟩⟩
    ∃ stored, Value.dump? (.time t) = some stored ∧
      time.load stored = .ok (.time { t with offset := some Offset.utc }) ∧
      time.load stored ≠ .ok (.time t) := by
  intro t
  have hcast : time.cast (.time t) = .ok (.time t) := rfl
  have hslight : (Value.time t).HasSlightOffset := ⟨_, rfl, by decide, by decide⟩
  have hraw : (Value.time t).InLimits := trivial
  obtain ⟨stored, hdump, hload, hsame⟩ := load_dump_of_cast (by decide) hraw hcast (by nofun)
  exact ⟨stored, hdump, hload, fun h => hsame.mp h hslight⟩

end Kind

end RecordMapper
