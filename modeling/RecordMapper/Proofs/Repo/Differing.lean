import RecordMapper.Proofs.Changeset.Staging
import RecordMapper.Proofs.Changeset.Whitelist
import RecordMapper.Proofs.Repo.Sending

/-! # Updates that change something

Casting and changing compare a value with the one that the entity has. They stage it only if the two
differ, and otherwise take away what was staged. So all that is staged differs from what the entity
has, and an update sets a column only to another value. -/

namespace RecordMapper

open Outcome

namespace Changeset

variable {c d : Changeset} {name : String} {v : Value} {values params : Row Value}
  {emptyValues : List Value}

/-! ## Staging what differs -/

/-- Every staged value differs from the one that the entity has. -/
def Differing (c : Changeset) : Prop :=
  ∀ name v, (name, v) ∈ c.changes → Value.equal? v (c.stored name) = some false

theorem differing_start (e : Entity) : (start e).Differing := nofun

theorem Differing.of_eq (hc : c.Differing) (hdata : d.data = c.data)
    (hchanges : d.changes = c.changes) : d.Differing := by
  unfold Differing stored
  rw [hdata, hchanges]
  exact hc

theorem differing_stage (hc : c.Differing) (h : compared (c.stage name v) = .ok d) :
    d.Differing := by
  obtain ⟨same, hequal, rfl⟩ := compared_stage_eq_ok_iff.mp h
  intro other w hmem
  cases same with
  | false =>
      rcases Row.mem_insert hmem with ⟨rfl, rfl⟩ | hmem
      · exact hequal
      · exact hc other w hmem
  | true => exact hc other w (Row.erase_subset c.changes name hmem)

theorem differing_castField (hc : c.Differing) (h : castField params emptyValues c name = .ok d) :
    d.Differing := by
  unfold castField at h
  split at h
  · cases h
  · split at h
    · cases h
      exact hc
    · rw [bind_eq_ok_iff] at h
      obtain ⟨isEmpty, -, h⟩ := h
      split at h
      · exact differing_stage hc h
      · have hsame := annotates_addDistinct h
        exact hc.of_eq hsame.data hsame.changes
      · cases h

theorem differing_cast {permitted : List String} (hc : c.Differing)
    (h : c.cast params permitted emptyValues = .ok d) : d.Differing := by
  simp only [cast, bind_eq_ok_iff, pure_eq_ok_iff] at h
  obtain ⟨c', hfold, rfl⟩ := h
  have hc' : c'.Differing :=
    of_foldlM (P := Differing) hfold (fun _ _ _ _ hb ha => differing_castField ha hb) hc
  exact hc'.of_eq rfl rfl

theorem differing_stageAll (hc : c.Differing) (h : c.stageAll values = .ok d) : d.Differing := by
  induction values generalizing c with
  | nil =>
      cases h
      exact hc
  | cons p values ih =>
      simp only [stageAll, bind_eq_ok_iff] at h
      obtain ⟨-, -, c', hc', h⟩ := h
      exact ih (differing_stage hc hc') h

/-- Whether a step compares what it stages with what the entity has: staging a value in any case and
beginning anew do not. -/
def Step.compares : Step → Bool
  | stage (.putChange ..) | stage (.restart _) => false
  | _ => true

/-- A step leaves nothing staged that does not differ. -/
theorem differing_of_next? {s : Step} (hs : s.compares = true) (h : s.next? c = some d)
    (hc : c.Differing) : d.Differing := by
  have hkept (hpiped : s.isPiped = true) (hedit : s.isEdit = false) : d.Differing := by
    have hmoves := Step.moves_of_next? hpiped h
    exact hc.of_eq hmoves.data (hmoves.changes hedit)
  cases s with
  | violation e => exact hkept rfl rfl
  | stage s =>
      have hrun := toOption_eq_some_iff.mp h
      cases s with
      | cast => exact differing_cast hc hrun
      | change => exact differing_stageAll hc (stageAll_of_change hrun)
      | deleteChange field =>
          obtain ⟨-, rfl⟩ := of_ifField hrun
          exact fun other w hmem => hc other w (Row.erase_subset c.changes field hmem)
      | putChange => cases hs
      | restart => cases hs
      | setAction => exact Except.ok.inj hrun ▸ hc.of_eq rfl rfl
      | _ => exact hkept rfl rfl

theorem data_of_next? {s : Step} (hs : s.compares = true) (h : s.next? c = some d) :
    d.data = c.data := by
  by_cases hpiped : s.isPiped = true
  · exact (Step.moves_of_next? hpiped h).data
  · match s with
    | .stage (.setAction action) =>
        cases h
        rfl

/-- Steps keep the entity and leave nothing staged that does not differ. -/
theorem differing_of_runAll? {steps : List Step} (hsteps : ∀ s ∈ steps, s.compares = true)
    (h : Step.runAll? steps c = some d) (hc : c.Differing) : d.data = c.data ∧ d.Differing := by
  refine Step.of_runAll? (P := fun a => a.data = c.data ∧ a.Differing) h ?_ ⟨rfl, hc⟩
  rintro s hs a b hb ⟨hdata, ha⟩
  exact ⟨(data_of_next? (hsteps s hs) hb).trans hdata, differing_of_next? (hsteps s hs) hb ha⟩

/-! ## Giving back what is stored -/

theorem exists_field_of_castField (h : castField params emptyValues c name = .ok d) :
    ∃ field, c.schema.field name = .ok field := by
  unfold castField at h
  split at h
  · cases h
  · exact ⟨_, ‹_›⟩

/-- The fields that a cast permits are fields of the schema if it goes through. -/
theorem exists_field_of_cast {permitted : List String}
    (h : c.cast params permitted emptyValues = .ok d) :
    ∀ n ∈ permitted, ∃ field, c.schema.field n = .ok field := by
  intro n hn
  obtain ⟨front, back, rfl⟩ := List.append_of_mem hn
  simp only [cast, List.foldlM_append, List.foldlM_cons, bind_eq_ok_iff] at h
  obtain ⟨-, ⟨a, ha, b, hb, -⟩, -⟩ := h
  have hdata : a.data = c.data := (grows_castFields ha).data
  obtain ⟨field, hfield⟩ := exists_field_of_castField hb
  exact ⟨field, by rwa [schema, hdata] at hfield⟩

/-- Whatever is equal to what the entity has in a field takes away what is staged for the field, be
it one of several changes or what an input is cast to. A single change goes through unless its name
is taken, and a single input always. -/
structure GivesBack (c : Changeset) : Prop where
  change : ∀ {values : Row Value} {d : Changeset}, values.keys.Nodup →
    c.change values = .ok d → ∀ {name : String} {v : Value}, values.find? name = some v →
      Value.equal? v (c.stored name) = some true → d.change? name = none
  singleChange : ∀ {name : String} {field : Field} {v : Value}, c.schema.field name = .ok field →
    name ≠ reservedName → Value.equal? v (c.stored name) = some true →
      c.change [(name, v)] = .ok { c with changes := c.changes.erase name }
  cast : ∀ {params : Row Value} {permitted : List String} {emptyValues : List Value}
    {d : Changeset}, c.cast params permitted emptyValues = .ok d → ∀ {name : String},
      name ∈ permitted → ∀ {field : Field} {v w : Value}, c.schema.field name = .ok field →
        Takes params emptyValues name v → field.kind.cast v = .ok w →
          Value.equal? w (c.stored name) = some true → d.change? name = none
  singleCast : ∀ {name : String} {field : Field} {raw w : Value},
    c.schema.field name = .ok field → field.kind.cast raw = .ok w →
      Value.equal? w (c.stored name) = some true →
        ∃ d, c.cast [(name, raw)] [name] [] = .ok d ∧ d.changes = c.changes.erase name

theorem givesBack (c : Changeset) : c.GivesBack := by
  constructor
  · intro values d hkeys h name v hv hequal
    rw [change?_stageAll hkeys (stageAll_of_change h) hv, if_pos hequal]
  · intro name field v hfield hname hequal
    have hfree : Row.has [(name, v)] reservedName = false := by simp [Row.has, Row.find?, hname]
    rw [change_eq _ hfree, stageAll_cons (Descriptor.hasField_of_field hfield) hequal]
    rfl
  · intro params permitted emptyValues d h name hname field v w hfield hv hw hequal
    have hfields := exists_field_of_cast h
    obtain ⟨effect, heffect⟩ := exists_does_of_cast hfields h name hname
    obtain ⟨same, hsame, rfl⟩ := does_of_ok hfield hv hw heffect
    obtain rfl := Option.some.inj (hequal.symm.trans hsame)
    obtain ⟨d', hran, rfl⟩ := ran_of_cast hfields h
    exact hran.named name hname _ heffect
  · intro name field raw w hfield hw hequal
    have htakes : Takes [(name, raw)] [] name raw := .raw (if_pos rfl) rfl
    have hcast := castField_eq_of_does hfield (.drop hfield htakes hw hequal)
    refine ⟨_, by simp only [Changeset.cast, List.foldlM_cons, hcast]; rfl, rfl⟩

end Changeset

namespace Repo

open Changeset

variable {σ : Type} {c : Changeset}

/-- An update sends the statement that sets the columns of the staged fields. -/
theorem writes_of_mem_sent {repo : Repo σ} {a : Action} {own : Option Deadline}
    {compiler : Compiler} {s : σ} {st : Statement}
    (h : st ∈ repo.sent (some a) c own compiler s) : c.Writes compiler.dialect a st := by
  obtain ⟨-, x, hx, rfl⟩ := (repo.mem_sent_iff (some a) c own compiler s st).mp h
  exact writes_submittedFor_iff.mp (writes_of_prepare hx)

/-- However a changeset came out of an entity by steps that compare what they stage, all that is
staged differs from what the entity has, and what does not differ takes away what was staged. An
update sends nothing, or one statement that sets columns to the staged values and no others. -/
theorem differing_update {entity : Entity} {steps : List Step}
    (hsteps : ∀ s ∈ steps, s.compares = true)
    (h : Step.runAll? steps (Changeset.start entity) = some c) :
    c.data = entity ∧ c.Differing ∧ c.GivesBack ∧
    ∀ (repo : Repo σ) (own : Option Deadline) (compiler : Compiler) (s : σ),
      let sent := repo.sent (some .update) c own compiler s
      sent.length ≤ 1 ∧ ∀ st ∈ sent, c.stagedFields ≠ [] ∧
        st = c.schema.recordStatement
          (c.schema.changeText compiler.dialect (c.stagedFields.map Field.name))
          (c.stagedValues c.stagedFields ++ [entity.key]) ∧
        ∀ f ∈ c.stagedFields, ∃ v, c.change? f.name = some v ∧
          Value.equal? v (entity.getD f.name .null) = some false := by
  obtain ⟨hdata, hdiffering⟩ := differing_of_runAll? hsteps h (differing_start entity)
  have hdata : c.data = entity := hdata
  refine ⟨hdata, hdiffering, c.givesBack, fun repo own compiler s => ⟨?_, fun st hst => ?_⟩⟩
  · exact repo.length_sent_le_one (some .update) c own compiler s
  · cases writes_of_mem_sent hst with
    | update hstored happlied hstaged =>
        refine ⟨hstaged, by rw [hdata], fun f hf => ?_⟩
        obtain ⟨v, hv⟩ := Option.isSome_iff_exists.mp (List.mem_filter.mp hf).2
        have hdiffers := hdiffering f.name v (Row.mem_of_find? hv)
        exact ⟨v, hv, by rwa [stored, hdata] at hdiffers⟩

/-- A name and a town are staged, and the old name is cast: the update sets the town alone. Giving
back the old town leaves nothing staged. -/
theorem differing_update_back :
    let schema : Descriptor := ⟨"User", "users",
      [⟨"id", .id, false, .null, true⟩, ⟨"name", .string, false, .null, false⟩,
        ⟨"town", .string, false, .null, false⟩], [], "id", by decide, by decide⟩
    let entity : Entity :=
      ⟨schema, [("id", .int 1), ("name", .string "Al"), ("town", .string "Rome")], .loaded⟩
    let steps : List Step := [.stage (.change [("name", .string "Bo"), ("town", .string "Oslo")]),
      .stage (.cast [("name", .string "Al")] ["name"] [])]
    let c : Changeset := { Changeset.start entity with
      changes := [("town", .string "Oslo")], params := [("name", .string "Al")],
      castFields := ["name"] }
    Step.runAll? steps (Changeset.start entity) = some c ∧
      c.change [("town", .string "Rome")] = .ok { c with changes := [] } ∧
      ∃ st ∈ (Repo.mk Replay.store .empty .null).sent (some .update) c none
          (.new none .postgres 512) (.start ⟨.whole 0, false⟩ [] none),
        st.parameters = [.value (.string "Oslo"), .value (.int 1)] := by
  intro schema entity steps c
  have hsteps : ∀ s ∈ steps, s.compares = true := by simp [steps, Step.compares]
  have hrun : Step.runAll? steps (Changeset.start entity) = some c := rfl
  obtain ⟨-, -, hback, hsent⟩ := differing_update (σ := Replay) hsteps hrun
  have htown : c.schema.field "town" = .ok ⟨"town", .string, false, .null, false⟩ := rfl
  refine ⟨hrun, hback.singleChange htown (by decide) rfl, ?_⟩
  have hstaged : c.stagedFields = [⟨"town", .string, false, .null, false⟩] := rfl
  have happlied : c.apply = .ok ⟨schema,
      [("id", .int 1), ("name", .string "Al"), ("town", .string "Oslo")], .loaded⟩ := rfl
  have hwrites := Writes.update (d := .postgres) (c := c) rfl happlied (by simp [hstaged])
  obtain ⟨x, hx, -⟩ :=
    prepare_of_writes (c := c.submittedFor .update) rfl (writes_submittedFor_iff.mpr hwrites)
  have hmem := (mem_sent_iff (Repo.mk Replay.store .empty .null) (some .update) c none
    (.new none .postgres 512) (.start ⟨.whole 0, false⟩ [] none) x.statement).mpr
      ⟨⟨none, rfl⟩, x, hx, rfl⟩
  obtain ⟨-, hstatement, -⟩ := (hsent _ _ _ _).2 _ hmem
  exact ⟨x.statement, hmem, by rw [hstatement, hstaged]; rfl⟩

end Repo

end RecordMapper
