import RecordMapper.Proofs.Changeset.Invariants
import RecordMapper.Proofs.Value.Escapes

/-! # What a cast fails on

Casting input to fields records a value that is none of the field's kind and goes on. It fails only
on input whose conversion fails with another error, and on values that refuse to be compared. -/

namespace RecordMapper

open Outcome

/-! ## The error of a value that is none of a kind -/

theorem Value.equal?_string (v : Value) (s : String) :
    ∃ b, equal? v (.string s) = some b ∧ (b = true → v = .string s) := by
  cases v with
  | string t => exact ⟨t == s, rfl, fun h => congrArg string (beq_iff_eq.mp h)⟩
  | _ => exact ⟨false, by simp [equal?, number?], nofun⟩

namespace Changeset

variable {c d : Changeset} {params : Row Value} {emptyValues : List Value} {name : String}

theorem exists_same?_castFailure (kind : Kind) (e : FieldError) :
    ∃ b, e.same? (castFailure name kind) = some b ∧ (b = true → e = castFailure name kind) := by
  obtain ⟨field, message, source, validation, details⟩ := e
  unfold FieldError.same?
  split
  · rename_i hheads
    simp only [castFailure] at hheads ⊢
    obtain ⟨rfl, rfl, rfl, rfl⟩ := hheads
    match details with
    | [] => exact ⟨false, rfl, nofun⟩
    | (k, v) :: rest =>
        obtain ⟨b, hb, hv⟩ := v.equal?_string kind.name
        simp only [FieldError.sameDetails?, hb]
        by_cases hk : k = "type"
        · subst hk
          cases b with
          | false => exact ⟨false, rfl, nofun⟩
          | true =>
              cases rest with
              | nil => exact ⟨true, rfl, fun _ => by rw [hv rfl]⟩
              | cons p rest => exact ⟨false, rfl, nofun⟩
        · exact ⟨false, if_neg hk, nofun⟩
  · exact ⟨false, rfl, nofun⟩

/-- The error of a value that is none of a kind is always added, unless it is there. -/
theorem addDistinct_castFailure (c : Changeset) (name : String) (kind : Kind) :
    ∃ d, c.addDistinct (castFailure name kind) = .ok d ∧ castFailure name kind ∈ d.errors := by
  refine ⟨c.addError (castFailure name kind), addDistinct_eq_ok_iff.mpr ⟨?_, rfl⟩, ?_⟩
  · refine Value.exists_anyOf? fun e _ => ?_
    obtain ⟨b, hb, -⟩ := exists_same?_castFailure kind e
    exact ⟨b, hb⟩
  · rcases c.addError_cases (castFailure name kind) with ⟨⟨e, he, hsame⟩, h⟩ | ⟨-, h⟩
    · obtain ⟨b, hb, heq⟩ := exists_same?_castFailure kind e
      rw [FieldError.same, hb] at hsame
      rw [h, ← heq (by simpa using hsame)]
      exact he
    · rw [h]
      exact List.mem_append_right _ List.mem_cons_self

/-! ## One field -/

/-- What is cast for a field: the input for it, or `null` where that counts as no value. -/
inductive Takes (params : Row Value) (emptyValues : List Value) (name : String) : Value → Prop where
  | raw {v : Value} (hraw : params.find? name = some v)
      (hempty : Value.anyOf? (Value.equalInKind? v) emptyValues = some false) :
      Takes params emptyValues name v
  | null {v : Value} (hraw : params.find? name = some v)
      (hempty : Value.anyOf? (Value.equalInKind? v) emptyValues = some true) :
      Takes params emptyValues name .null

/-- The input for a field of an entity that a cast fails on: whether it counts as no value cannot be
said, its conversion fails with another error than a mismatch, or what is made of it cannot be
compared to what the entity has. -/
inductive RefusesCast (x : Entity) (params : Row Value) (emptyValues : List Value) (name : String) :
    StageError → Prop where
  | emptiness {v : Value} (hraw : params.find? name = some v)
      (h : Value.anyOf? (Value.equalInKind? v) emptyValues = none) :
      RefusesCast x params emptyValues name (.comparison .refused)
  | conversion {field : Field} {v : Value} {e : CastError} (hfield : x.schema.field name = .ok field)
      (hv : Takes params emptyValues name v) (h : field.kind.CastEscapes v e) :
      RefusesCast x params emptyValues name (.cast e)
  | difference {field : Field} {v w : Value} (hfield : x.schema.field name = .ok field)
      (hv : Takes params emptyValues name v) (hw : field.kind.cast v = .ok w)
      (h : Value.equal? w (x.getD name .null) = none) :
      RefusesCast x params emptyValues name (.comparison .refused)

/-- What a cast does with the value that it takes for a field. -/
def castTaken (c : Changeset) (name : String) (kind : Kind) (v : Value) : Staged :=
  match kind.cast v with
  | .ok w => compared (c.stage name w)
  | .error .mismatch => c.addDistinct (castFailure name kind)
  | .error e => .error (.cast e)

theorem castField_of_takes {field : Field} (hfield : c.schema.field name = .ok field) {v : Value}
    (hv : Takes params emptyValues name v) :
    castField params emptyValues c name = c.castTaken name field.kind v := by
  unfold castField castTaken
  cases hv with
  | raw hraw hempty =>
      rw [hfield]
      simp only [hraw, hempty]
      rfl
  | null hraw hempty =>
      rw [hfield]
      simp only [hraw, hempty]
      rfl

theorem compared_stage_eq_error_iff {w : Value} {e : StageError} :
    compared (c.stage name w) = .error e ↔
      Value.equal? w (c.stored name) = none ∧ e = .comparison .refused := by
  cases h : Value.equal? w (c.stored name) with
  | none =>
      have hstage : compared (c.stage name w) = .error (.comparison .refused) := by
        rw [stage, Value.isEqual, h]
        rfl
      rw [hstage, Except.error.injEq, and_iff_right rfl, eq_comm]
  | some same =>
      rw [compared_stage_eq_ok_iff.mpr ⟨same, h, rfl⟩]
      simp

theorem castTaken_eq_error_iff {kind : Kind} {v : Value} {e : StageError} :
    c.castTaken name kind v = .error e ↔
      (∃ d, kind.CastEscapes v d ∧ e = .cast d) ∨
        ∃ w, kind.cast v = .ok w ∧ Value.equal? w (c.stored name) = none ∧
          e = .comparison .refused := by
  simp only [← Kind.escaped_cast_iff]
  unfold castTaken
  split
  · rename_i w hw
    rw [compared_stage_eq_error_iff]
    simp [hw]
  · rename_i hw
    obtain ⟨d, hd, -⟩ := c.addDistinct_castFailure name kind
    simp [hw, hd]
  · rename_i d hother hw
    have hd : d ≠ .mismatch := by
      rintro rfl
      exact hother rfl
    simp [hw, Cast.escaped_error_iff hd, eq_comm]

/-- What is taken for a field is there, and it is one value. -/
theorem Takes.unique {v w : Value} (hv : Takes params emptyValues name v)
    (hw : Takes params emptyValues name w) : v = w := by
  cases hv with
  | raw hraw hempty =>
      cases hw with
      | raw hraw' hempty' => exact Option.some.inj (hraw.symm.trans hraw')
      | null hraw' hempty' =>
          obtain rfl := Option.some.inj (hraw.symm.trans hraw')
          simp [hempty] at hempty'
  | null hraw hempty =>
      cases hw with
      | raw hraw' hempty' =>
          obtain rfl := Option.some.inj (hraw.symm.trans hraw')
          simp [hempty] at hempty'
      | null hraw' hempty' => rfl

/-- Either nothing is taken for a field since there is no input for it, or since it cannot be said
whether it counts as no value, or a value is taken. -/
theorem takes_cases (params : Row Value) (emptyValues : List Value) (name : String) :
    params.find? name = none ∨
      (∃ v, params.find? name = some v ∧
        Value.anyOf? (Value.equalInKind? v) emptyValues = none) ∨
      ∃ v, Takes params emptyValues name v := by
  cases hraw : params.find? name with
  | none => exact .inl rfl
  | some v =>
      cases hempty : Value.anyOf? (Value.equalInKind? v) emptyValues with
      | none => exact .inr (.inl ⟨v, rfl, hempty⟩)
      | some isEmpty =>
          cases isEmpty with
          | false => exact .inr (.inr ⟨v, .raw hraw hempty⟩)
          | true => exact .inr (.inr ⟨.null, .null hraw hempty⟩)

theorem Takes.find? {v : Value} (hv : Takes params emptyValues name v) :
    ∃ raw, params.find? name = some raw ∧
      Value.anyOf? (Value.equalInKind? raw) emptyValues ≠ none := by
  cases hv with
  | raw hraw hempty => exact ⟨_, hraw, by simp [hempty]⟩
  | null hraw hempty => exact ⟨_, hraw, by simp [hempty]⟩

/-- A cast fails on the input for a field just when the input is refused. -/
theorem castField_eq_error_iff {field : Field} (hfield : c.schema.field name = .ok field)
    {e : StageError} :
    castField params emptyValues c name = .error e ↔
      RefusesCast c.data params emptyValues name e := by
  rcases takes_cases params emptyValues name with hnone | ⟨v, hraw, hempty⟩ | ⟨v, hv⟩
  · have hcast : castField params emptyValues c name = .ok c := by
      simp only [castField, hfield, hnone]
    rw [hcast]
    refine iff_of_false nofun fun h => ?_
    cases h with
    | emptiness hraw => simp [hnone] at hraw
    | conversion _ hv =>
        obtain ⟨raw, hraw, -⟩ := hv.find?
        simp [hnone] at hraw
    | difference _ hv =>
        obtain ⟨raw, hraw, -⟩ := hv.find?
        simp [hnone] at hraw
  · have hcast : castField params emptyValues c name = .error (.comparison .refused) := by
      simp only [castField, hfield, hraw, hempty]
      rfl
    rw [hcast]
    have htaken : ∀ w, ¬ Takes params emptyValues name w := by
      intro w hw
      obtain ⟨raw, hraw', hsaid⟩ := hw.find?
      obtain rfl := Option.some.inj (hraw.symm.trans hraw')
      exact hsaid hempty
    constructor
    · intro h
      obtain rfl := Except.error.inj h
      exact .emptiness hraw hempty
    · intro h
      cases h with
      | emptiness => rfl
      | conversion _ hv => exact absurd hv (htaken _)
      | difference _ hv => exact absurd hv (htaken _)
  · rw [castField_of_takes hfield hv, castTaken_eq_error_iff]
    constructor
    · rintro (⟨d, hd, rfl⟩ | ⟨w, hw, hequal, rfl⟩)
      · exact .conversion hfield hv hd
      · exact .difference hfield hv hw hequal
    · intro h
      cases h with
      | emptiness hraw hempty =>
          obtain ⟨raw, hraw', hsaid⟩ := hv.find?
          obtain rfl := Option.some.inj (hraw.symm.trans hraw')
          exact absurd hempty hsaid
      | conversion hfield' hv' hescapes =>
          obtain rfl := Except.ok.inj (hfield.symm.trans hfield')
          obtain rfl := hv.unique hv'
          exact .inl ⟨_, hescapes, rfl⟩
      | difference hfield' hv' hw hequal =>
          obtain rfl := Except.ok.inj (hfield.symm.trans hfield')
          obtain rfl := hv.unique hv'
          exact .inr ⟨_, hw, hequal, rfl⟩

/-! ## All fields -/

theorem grows_castFields {names : List String}
    (h : names.foldlM (castField params emptyValues) c = .ok d) : c.Grows d :=
  of_foldlM (P := c.Grows) h (fun _ _ _ _ hb ha => ha.trans (grows_castField hb)) (.refl c)

/-- A cast fails at the first field whose input is refused. -/
theorem cast_eq_error_iff {permitted : List String}
    (hfields : ∀ name ∈ permitted, ∃ field, c.schema.field name = .ok field) {e : StageError} :
    c.cast params permitted emptyValues = .error e ↔
      ∃ front name back, permitted = front ++ name :: back ∧
        (∀ n ∈ front, ∀ d, ¬ RefusesCast c.data params emptyValues n d) ∧
        RefusesCast c.data params emptyValues name e := by
  have hcast : c.cast params permitted emptyValues = .error e ↔
      permitted.foldlM (castField params emptyValues) c = .error e := by
    unfold cast
    cases permitted.foldlM (castField params emptyValues) c with
    | error d => exact Iff.rfl
    | ok d => exact iff_of_false nofun nofun
  rw [hcast]
  -- The entity stays the same along the run, so that what is refused does, too.
  refine foldlM_eq_error_iff (I := fun d => d.data = c.data) ?_ ?_ rfl
  · intro d hd name hname e
    obtain ⟨field, hfield⟩ := hfields name hname
    have hfield' : d.schema.field name = .ok field := by
      rw [schema, hd]
      exact hfield
    rw [castField_eq_error_iff hfield', hd]
  · intro d hd name _ d' hd'
    exact (grows_castField hd').data.trans hd

/-- A value that is none of its field's kind is recorded. -/
theorem castFailure_mem_of_cast {permitted : List String}
    (h : c.cast params permitted emptyValues = .ok d) (hname : name ∈ permitted) {field : Field}
    (hfield : c.schema.field name = .ok field) {v : Value} (hv : Takes params emptyValues name v)
    (hcast : field.kind.cast v = .error .mismatch) : castFailure name field.kind ∈ d.errors := by
  obtain ⟨front, back, rfl⟩ := List.append_of_mem hname
  simp only [cast, List.foldlM_append, List.foldlM_cons, bind_eq_ok_iff, pure_eq_ok_iff] at h
  obtain ⟨d', ⟨a, ha, b, hb, hd'⟩, rfl⟩ := h
  have hfield' : a.schema.field name = .ok field := by
    rw [schema, (grows_castFields ha).data]
    exact hfield
  have htaken : castField params emptyValues a name = a.addDistinct (castFailure name field.kind) := by
    rw [castField_of_takes hfield' hv, castTaken, hcast]
  obtain ⟨b', hb', hmem⟩ := a.addDistinct_castFailure name field.kind
  rw [htaken, hb'] at hb
  obtain rfl := Except.ok.inj hb
  exact (grows_castFields hd').errors.subset hmem

/-- Converting a value gives a value or a mismatch, but for the values whose conversion escapes. So
a cast over fields of the schema records every mismatch, and it fails at the first field whose input
is refused: because its conversion escapes, or because a signaling NaN is not compared. -/
theorem cast_fails_iff_refused (c : Changeset) (params : Row Value) (permitted : List String)
    (emptyValues : List Value)
    (hfields : ∀ name ∈ permitted, ∃ field, c.schema.field name = .ok field) :
    (∀ (k : Kind) (v : Value) (e : CastError), Cast.Escaped (k.cast v) e ↔ k.CastEscapes v e) ∧
    (∀ (k : Kind) (v : Value) (e : CastError), Cast.Escaped (k.load v) e ↔ k.LoadEscapes v e) ∧
    (∀ e, c.cast params permitted emptyValues = .error e ↔
      ∃ front name back, permitted = front ++ name :: back ∧
        (∀ n ∈ front, ∀ d, ¬ RefusesCast c.data params emptyValues n d) ∧
        RefusesCast c.data params emptyValues name e) ∧
    ∀ d, c.cast params permitted emptyValues = .ok d → ∀ name ∈ permitted, ∀ field v,
      c.schema.field name = .ok field → Takes params emptyValues name v →
      field.kind.cast v = .error .mismatch → castFailure name field.kind ∈ d.errors :=
  ⟨fun _ _ _ => Kind.escaped_cast_iff, fun _ _ _ => Kind.escaped_load_iff,
    fun _ => cast_eq_error_iff hfields,
    fun _ h _ hname _ _ hfield hv hcast => castFailure_mem_of_cast h hname hfield hv hcast⟩

/-- An integer that has no double makes the cast of a double fail, where a truth value is
recorded. -/
theorem cast_fails_iff_refused_overflow :
    let schema : Descriptor := ⟨"Item", "items",
      [⟨"id", .integer, false, .null, true⟩, ⟨"price", .float, false, .null, false⟩], [], "id",
      by decide, by decide⟩
    let c := start ⟨schema, [], .built⟩
    c.cast [("price", .int Number.Binary64.leastOverflow)] ["id", "price"] [.string ""] =
        .error (.cast .overflow) ∧
      ∀ d, c.cast [("price", .bool true)] ["id", "price"] [.string ""] = .ok d →
        castFailure "price" .float ∈ d.errors := by
  intro schema c
  have hfields : ∀ name ∈ ["id", "price"], ∃ field, c.schema.field name = .ok field := by
    intro name hname
    simp only [List.mem_cons, List.not_mem_nil, or_false] at hname
    rcases hname with rfl | rfl
    exacts [⟨_, rfl⟩, ⟨_, rfl⟩]
  have hprice : c.schema.field "price" = .ok ⟨"price", .float, false, .null, false⟩ := rfl
  constructor
  · obtain ⟨-, -, hfails, -⟩ := cast_fails_iff_refused c
      [("price", .int Number.Binary64.leastOverflow)] ["id", "price"] [.string ""] hfields
    refine (hfails _).mpr ⟨["id"], "price", [], rfl, ?_, ?_⟩
    · intro n hn d h
      obtain rfl := List.mem_singleton.mp hn
      cases h with
      | emptiness hraw => cases hraw
      | conversion _ hv => cases hv <;> contradiction
      | difference _ hv => cases hv <;> contradiction
    · exact .conversion hprice (.raw rfl rfl) (.overflow (Nat.le_refl _))
  · intro d hd
    obtain ⟨-, -, -, hrecords⟩ := cast_fails_iff_refused c [("price", .bool true)] ["id", "price"]
      [.string ""] hfields
    exact hrecords d hd "price" (by simp) _ _ hprice (.raw rfl rfl) rfl

end Changeset

end RecordMapper
