import RecordMapper.Proofs.Changeset.Effects
import RecordMapper.Proofs.Value.Comparison
import RecordMapper.Proofs.Value.Canonical

/-! # What a cast changes

A cast stages what is made of the parameters of the permitted fields, and nothing else. It goes
through unless it has to compare a signaling NaN. -/

namespace RecordMapper

open Outcome

/-! ## Quiet values -/

namespace Kind

variable {k : Kind} {v w : Value}

/-- Casting makes no signaling NaN. -/
theorem isQuiet_of_cast (hv : v.isQuiet = true) (h : k.cast v = .ok w) : w.isQuiet = true := by
  by_cases hw : w = .null
  · rw [hw]
    rfl
  · cases admits_of_cast h hw with
    | decimal hfinite =>
        rename_i d
        cases d with
        | nan => cases hfinite
        | _ => rfl
    | map es =>
        cases v with
        | map es =>
            cases h
            exact hv
        | _ => cases h
    | _ => rfl

end Kind

theorem Value.exists_equalInKind? {v w : Value} (hv : v.isQuiet = true) (hw : w.isQuiet = true) :
    ∃ b, equalInKind? v w = some b := by
  unfold equalInKind?
  split
  · exact exists_equal? hv hw
  · exact ⟨false, rfl⟩

namespace Changeset

variable {c d : Changeset} {params : Row Value} {emptyValues : List Value} {name : String}
  {x : Entity}

/-! ## Errors of well-formed changesets -/

theorem countP_castFailure {es : List FieldError} {kind : Kind}
    (hdistinct : es.Pairwise fun d e => d.same e = false) (hmem : castFailure name kind ∈ es) :
    es.countP (·.same (castFailure name kind)) = 1 := by
  obtain ⟨front, back, rfl⟩ := List.append_of_mem hmem
  obtain ⟨-, hback, hfront⟩ := List.pairwise_append.mp hdistinct
  have hfrontNone : front.countP (·.same (castFailure name kind)) = 0 := by
    rw [List.countP_eq_zero]
    intro e he
    simp [hfront e he _ List.mem_cons_self]
  have hbackNone : back.countP (·.same (castFailure name kind)) = 0 := by
    rw [List.countP_eq_zero]
    intro e he hsame
    obtain rfl := eq_of_same_castFailure hsame
    cases ((List.pairwise_cons.mp hback).1 _ he).symm.trans (same_castFailure name kind)
  rw [List.countP_append, List.countP_cons, hfrontNone, hbackNone, same_castFailure]
  rfl

theorem wellFormed_ofChanges {changes : Row Value} (h : ofChanges x changes = .ok c) :
    c.WellFormed := by
  unfold ofChanges at h
  split at h
  · cases h
  · rename_i hknown
    cases h
    refine { wellFormed_start x with changed := fun name hname => ?_ }
    have hfield : x.schema.hasField name = true := by
      simpa using List.find?_eq_none.mp hknown name hname
    exact hfield

theorem wellFormed_of_next? {s : Step} (h : s.next? c = some d) (hc : c.WellFormed) :
    d.WellFormed := by
  by_cases hpiped : s.isPiped = true
  · exact (Step.moves_of_next? hpiped h).wellFormed hc
  · match s with
    | .stage (.setAction action) =>
        cases h
        exact { hc with }
    | .stage (.restart changes) =>
        have hrun := toOption_eq_some_iff.mp h
        exact wellFormed_ofChanges (mapError_eq_ok_iff.mp hrun)

/-- What steps make of a well-formed changeset is well formed, also where they begin anew. -/
theorem wellFormed_of_runAll? {steps : List Step} (h : Step.runAll? steps c = some d)
    (hc : c.WellFormed) : d.WellFormed :=
  Step.of_runAll? h (fun _ _ _ _ hb ha => wellFormed_of_next? hb ha) hc

/-! ## The law of a cast -/

/-- No signaling NaN is in what a cast compares for a field. -/
structure Quiet (x : Entity) (params : Row Value) (emptyValues : List Value) (name : String) :
    Prop where
  input : ∀ v, params.find? name = some v → v.isQuiet = true
  emptyValues : ∀ v ∈ emptyValues, v.isQuiet = true
  stored : (x.getD name .null).isQuiet = true

theorem Quiet.takes (h : Quiet x params emptyValues name) {v : Value}
    (hv : Takes params emptyValues name v) : v.isQuiet = true := by
  cases hv with
  | raw hraw _ => exact h.input _ hraw
  | null _ _ => rfl

/-- Where no signaling NaN is, no comparison is refused. -/
theorem Quiet.not_refuses (h : Quiet x params emptyValues name) :
    ¬ RefusesCast x params emptyValues name (.comparison .refused) := by
  intro hrefused
  cases hrefused with
  | emptiness hraw hempty =>
      obtain ⟨b, hb⟩ := Value.exists_anyOf? fun w hw =>
        Value.exists_equalInKind? (h.input _ hraw) (h.emptyValues w hw)
      cases hempty.symm.trans hb
  | difference _ hv hw hequal =>
      obtain ⟨b, hb⟩ := Value.exists_equal? (Kind.isQuiet_of_cast (h.takes hv) hw) h.stored
      cases hequal.symm.trans hb

/-- What a cast of parameters to permitted fields makes of a changeset. A field that is not
permitted or has no parameter has the staged value that it had. Any other one is staged with what
its parameter is cast to if that differs from what the entity has, and is not staged if it does not;
if its parameter is none of its kind it has the staged value that it had, and one error. The new
parameters lie over the earlier ones. -/
structure Whitelisted (c : Changeset) (params : Row Value) (permitted : List String)
    (emptyValues : List Value) (d : Changeset) : Prop where
  rest : d = { c with
    changes := d.changes, errors := d.errors, params := d.params, castFields := d.castFields }
  untouched : ∀ name, name ∉ permitted ∨ params.find? name = none →
    d.change? name = c.change? name
  staged : ∀ name ∈ permitted, ∀ field v w, c.schema.field name = .ok field →
    Takes params emptyValues name v → field.kind.cast v = .ok w →
    ∃ same, Value.equal? w (c.stored name) = some same ∧
      d.change? name = if same then none else some w
  failed : ∀ name ∈ permitted, ∀ field v, c.schema.field name = .ok field →
    Takes params emptyValues name v → field.kind.cast v = .error .mismatch →
    d.change? name = c.change? name ∧
      d.errors.countP (·.same (castFailure name field.kind)) = 1
  errors : ∃ fresh, d.errors = c.errors ++ fresh ∧ Records c params emptyValues permitted fresh
  params : ∀ name, d.params.find? name = (params.find? name).or (c.params.find? name)
  castFields : ∀ name, name ∈ d.castFields ↔ name ∈ c.castFields ∨ name ∈ permitted

theorem mem_foldl_addOnce_iff {xs ys : List String} :
    name ∈ ys.foldl addOnce xs ↔ name ∈ xs ∨ name ∈ ys := by
  induction ys generalizing xs with
  | nil => simp
  | cons y ys ih => rw [List.foldl_cons, ih, mem_addOnce_iff, List.mem_cons, or_assoc]

/-- A permitted field has an effect when the cast goes through. -/
theorem exists_does_of_cast {permitted : List String}
    (hfields : ∀ n ∈ permitted, ∃ field, c.schema.field n = .ok field)
    (h : c.cast params permitted emptyValues = .ok d) :
    ∀ n ∈ permitted, ∃ effect, Does c.data params emptyValues n effect := by
  intro n hn
  obtain ⟨field, hfield⟩ := hfields n hn
  exact exists_does hfield ((succeeds_cast_iff hfields).mp ⟨d, h⟩ n hn)

theorem ran_of_cast {permitted : List String}
    (hfields : ∀ n ∈ permitted, ∃ field, c.schema.field n = .ok field)
    (h : c.cast params permitted emptyValues = .ok d) :
    ∃ d', Ran c params emptyValues permitted d' ∧
      d = { d' with
        params := c.params.overlay params
        castFields := permitted.foldl addOnce c.castFields } := by
  simp only [cast, bind_eq_ok_iff, pure_eq_ok_iff] at h
  obtain ⟨d', hd', rfl⟩ := h
  have hran := ran_castFields hfields hd'
  refine ⟨d', hran, ?_⟩
  rw [hran.rest]

theorem whitelisted_of_cast (hc : c.WellFormed) (hkeys : params.keys.Nodup)
    {permitted : List String}
    (hfields : ∀ n ∈ permitted, ∃ field, c.schema.field n = .ok field)
    (h : c.cast params permitted emptyValues = .ok d) :
    Whitelisted c params permitted emptyValues d := by
  have hwell := (grows_cast h).wellFormed hc
  have hdoes := exists_does_of_cast hfields h
  have hmismatch := fun name (hname : name ∈ permitted) field v hfield hv hcast =>
    @castFailure_mem_of_cast c d params emptyValues name permitted h hname field hfield v hv hcast
  obtain ⟨d', hran, rfl⟩ := ran_of_cast hfields h
  constructor
  · rw [hran.rest]
  · rintro name hname
    by_cases hmem : name ∈ permitted
    · have hnone := hname.resolve_left (not_not_intro hmem)
      exact hran.named name hmem .keep (.keep hnone)
    · exact hran.other name hmem
  · intro name hname field v w hfield hv hw
    obtain ⟨effect, heffect⟩ := hdoes name hname
    obtain ⟨same, hsame, rfl⟩ := does_of_ok hfield hv hw heffect
    refine ⟨same, hsame, (hran.named name hname _ heffect).trans ?_⟩
    cases same <;> rfl
  · intro name hname field v hfield hv hcast
    refine ⟨hran.named name hname _ (.fail hfield hv hcast), ?_⟩
    exact countP_castFailure hwell.errors (hmismatch name hname field v hfield hv hcast)
  · exact hran.errors
  · exact fun name => Row.find?_overlay hkeys name
  · exact fun name => mem_foldl_addOnce_iff

/-- Two casts that permit the same fields and agree on their parameters have the same changes and
the same errors. -/
theorem cast_agrees {permitted permitted' : List String} {params' : Row Value}
    (hfields : ∀ n ∈ permitted, ∃ field, c.schema.field n = .ok field)
    (hsame : ∀ n, n ∈ permitted' ↔ n ∈ permitted)
    (hagree : ∀ n ∈ permitted, params'.find? n = params.find? n)
    (h : c.cast params permitted emptyValues = .ok d) :
    ∃ d', c.cast params' permitted' emptyValues = .ok d' ∧
      (∀ n, d'.change? n = d.change? n) ∧ ∀ e, e ∈ d'.errors ↔ e ∈ d.errors := by
  have hdoes := exists_does_of_cast hfields h
  have hfields' : ∀ n ∈ permitted', ∃ field, c.schema.field n = .ok field :=
    fun n hn => hfields n ((hsame n).mp hn)
  have hsucceeds : Succeeds (c.cast params' permitted' emptyValues) := by
    rw [succeeds_cast_iff hfields']
    intro n hn
    have hn' := (hsame n).mp hn
    obtain ⟨field, hfield⟩ := hfields n hn'
    obtain ⟨effect, heffect⟩ := hdoes n hn'
    exact not_refusesCast_of_does hfield (heffect.of_agree (hagree n hn'))
  obtain ⟨d', hd'⟩ := hsucceeds
  obtain ⟨r, hran, rfl⟩ := ran_of_cast hfields h
  obtain ⟨r', hran', rfl⟩ := ran_of_cast hfields' hd'
  obtain ⟨hchanges, herrors⟩ := hran.agrees hran' hdoes hsame hagree
  exact ⟨_, hd', hchanges, herrors⟩

/-- However a changeset came out of an entity, a cast of parameters to fields of its schema that are
all cast or none of their kind does what it is permitted, unless a comparison with a signaling NaN
is refused; what it does depends on neither the order of the permitted fields nor on other
parameters. -/
theorem cast_whitelist {entity : Entity} {steps : List Step}
    (hrun : Step.runAll? steps (start entity) = some c) (hkeys : params.keys.Nodup)
    {permitted : List String}
    (hfields : ∀ n ∈ permitted, ∃ field, c.schema.field n = .ok field)
    (hcasts : ∀ n ∈ permitted, ∀ field v e, c.schema.field n = .ok field →
      Takes params emptyValues n v → ¬ Cast.Escaped (field.kind.cast v) e) :
    ((∃ d, c.cast params permitted emptyValues = .ok d) ↔
      ∀ n ∈ permitted, ¬ RefusesCast c.data params emptyValues n (.comparison .refused)) ∧
    (∀ n, Quiet c.data params emptyValues n →
      ¬ RefusesCast c.data params emptyValues n (.comparison .refused)) ∧
    ∀ d, c.cast params permitted emptyValues = .ok d →
      Whitelisted c params permitted emptyValues d ∧
      ∀ permitted' params', (∀ n, n ∈ permitted' ↔ n ∈ permitted) →
        (∀ n ∈ permitted, Row.find? params' n = params.find? n) →
        ∃ d', c.cast params' permitted' emptyValues = .ok d' ∧
          (∀ n, d'.change? n = d.change? n) ∧ ∀ e, e ∈ d'.errors ↔ e ∈ d.errors := by
  have hc := wellFormed_of_runAll? hrun (wellFormed_start entity)
  refine ⟨?_, fun n => Quiet.not_refuses, fun d hd => ⟨?_, ?_⟩⟩
  · refine (succeeds_cast_iff hfields).trans (forall₂_congr fun n hn => ?_)
    refine ⟨fun h => h _, fun h e hrefused => ?_⟩
    cases hrefused with
    | emptiness hraw hempty => exact h (.emptiness hraw hempty)
    | conversion hfield hv hescapes =>
        exact hcasts n hn _ _ _ hfield hv (Kind.escaped_cast_iff.mpr hescapes)
    | difference hfield hv hw hequal => exact h (.difference hfield hv hw hequal)
  · exact whitelisted_of_cast hc hkeys hfields hd
  · exact fun _ _ hsame hagree => cast_agrees hfields hsame hagree hd

/-- A signaling NaN is no decimal, which is an error of the field; but where a decimal counts as
none, it is compared with that decimal first. -/
theorem cast_whitelist_signalingNan :
    let schema : Descriptor := ⟨"Item", "items",
      [⟨"id", .integer, false, .null, true⟩, ⟨"price", .decimal, false, .null, false⟩], [], "id",
      by decide, by decide⟩
    let c := start ⟨schema, [], .built⟩
    let params : Row Value := [("price", .decimal (.nan false true 0))]
    (¬ ∃ d, c.cast params ["price"] [.decimal (.finite false 0 0)] = .ok d) ∧
      ∃ d, c.cast params ["price"] [.string ""] = .ok d ∧
        d.errors.countP (·.same (castFailure "price" .decimal)) = 1 := by
  intro schema c params
  have hrun : Step.runAll? [] c = some c := rfl
  have hkeys : params.keys.Nodup := by decide
  have hprice : c.schema.field "price" = .ok ⟨"price", .decimal, false, .null, false⟩ := rfl
  have hfields : ∀ n ∈ ["price"], ∃ field, c.schema.field n = .ok field := by
    intro n hn
    obtain rfl := List.mem_singleton.mp hn
    exact ⟨_, hprice⟩
  have hcasts : ∀ emptyValues, ∀ n ∈ ["price"], ∀ field v e, c.schema.field n = .ok field →
      Takes params emptyValues n v → ¬ Cast.Escaped (field.kind.cast v) e := by
    intro emptyValues n hn field v e hfield hv hescaped
    obtain rfl := List.mem_singleton.mp hn
    obtain rfl := Except.ok.inj (hprice.symm.trans hfield)
    have hescapes := Kind.escaped_cast_iff.mp hescaped
    cases hv with
    | raw hraw _ =>
        obtain rfl := Option.some.inj hraw
        cases hescapes
    | null _ _ => cases hescapes
  constructor
  · intro hcast
    obtain ⟨hsucceeds, -, -⟩ :=
      cast_whitelist hrun hkeys hfields (hcasts [.decimal (.finite false 0 0)])
    exact hsucceeds.mp hcast "price" (List.mem_singleton_self _) (.emptiness rfl rfl)
  · obtain ⟨hsucceeds, -, hlaw⟩ := cast_whitelist hrun hkeys hfields (hcasts [.string ""])
    have htakes : Takes params [.string ""] "price" (.decimal (.nan false true 0)) := .raw rfl rfl
    have hgoes : ∃ d, c.cast params ["price"] [.string ""] = .ok d := by
      refine hsucceeds.mpr fun n hn hrefused => ?_
      obtain rfl := List.mem_singleton.mp hn
      cases hrefused with
      | emptiness hraw hempty =>
          obtain rfl := Option.some.inj hraw
          cases hempty
      | difference hfield hv hw _ =>
          obtain rfl := Except.ok.inj (hprice.symm.trans hfield)
          obtain rfl := htakes.unique hv
          cases hw
    obtain ⟨d, hd⟩ := hgoes
    obtain ⟨hwhite, -⟩ := hlaw d hd
    exact ⟨d, hd, (hwhite.failed "price" (List.mem_singleton_self _) _ _ hprice htakes rfl).2⟩

end Changeset

end RecordMapper
