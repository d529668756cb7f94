import Mathlib.Data.List.Nodup
import RecordMapper.Proofs.Changeset.Staging
import RecordMapper.Repo.Commit

/-! # Values that travel under the names of their fields

A new entity, staged values, an entity with its changes and an entity with a row of the store all
take values under the names of fields. Each gives the fields just these values, but for the names
that are taken for other parts of the request. -/

namespace RecordMapper

open Outcome

variable {c : Changeset} {d : Descriptor} {values : Row Value} {name : String}

namespace Changeset

/-! ## Applying -/

/-- The entity with its changes has the value that is reported for a field, but for the name that is
taken for its origin: there it keeps the value that it had. -/
theorem find?_applied (hdata : c.data.Proper) (hchanges : c.schema.Assigns c.changes)
    (origin : Origin) {changed : Bool} {v : Value} (h : c.fetch name = .ok (changed, v)) :
    (Entity.mk c.schema (c.data.given.overlay (c.changes.erase Entity.originName))
      origin).find? name =
        some (if name = Entity.originName then c.stored name else v) := by
  simp only [fetch, bind_eq_ok_iff] at h
  obtain ⟨f, hf, h⟩ := h
  obtain ⟨hmem, rfl⟩ := Descriptor.field_eq_ok_iff.mp hf
  have hstored : c.data.find? f.name = some (c.stored f.name) := by
    rw [stored, Entity.getD, Entity.find?_of_proper hdata hmem]
    rfl
  have hfind := Entity.find?_overlaid hdata (hchanges.erase Entity.originName) origin hmem
  rw [Row.find?_erase, hstored] at hfind
  refine hfind.trans ?_
  by_cases horigin : f.name = Entity.originName
  · rw [if_pos horigin.symm, if_pos horigin]
    rfl
  · rw [if_neg (Ne.symm horigin), if_neg horigin]
    rw [change?] at h
    cases hchange : c.changes.find? f.name with
    | some w =>
        rw [hchange] at h
        obtain ⟨-, rfl⟩ := Prod.mk.inj (Except.ok.inj h)
        rfl
    | none =>
        rw [hchange] at h
        obtain ⟨-, rfl⟩ := Prod.mk.inj (Except.ok.inj h)
        rfl

end Changeset

namespace Entity

/-! ## Merging -/

theorem mergeRow_eq {e : Entity} {row values : Row Value} (he : e.Proper)
    (h : loadFields row e.schema.stored = .ok values) (origin : Origin) :
    e.mergeRow row origin =
      match firstReserved? ["self", originName] values with
      | some name => .error (.entity (.reserved name))
      | none => .ok ⟨e.schema, e.given.overlay values, origin⟩ := by
  rw [mergeRow, h]
  change (e.replace values (some origin)).mapError RepoError.entity = _
  rw [replace_eq he (assigns_loadFields h)]
  cases firstReserved? ["self", originName] values <;> rfl

/-- A stored field with a column has the value that the column is read as, and every other field the
value that it had. -/
theorem find?_merged {e : Entity} {row values : Row Value} (he : e.Proper)
    (h : loadFields row e.schema.stored = .ok values) (origin : Origin) {f : Field}
    (hf : f ∈ e.schema.fields) :
    let m := Entity.mk e.schema (e.given.overlay values) origin
    match (if f.virtual then none else row.find? f.name) with
    | some raw => ∃ v, f.kind.load raw = .ok v ∧ m.find? f.name = some v
    | none => m.find? f.name = e.find? f.name := by
  intro m
  have hfind : m.find? f.name = (values.find? f.name).or (e.find? f.name) :=
    find?_overlaid he (assigns_loadFields h) origin hf
  rw [hfind]
  by_cases hvirtual : f.virtual = true
  · have hnone : values.find? f.name = none := by
      rw [Row.find?_eq_none_iff]
      intro hmem
      obtain ⟨g, hg, hname⟩ := List.mem_map.mp ((keys_loadFields_sublist h).subset hmem)
      obtain ⟨hg, hstored⟩ := List.mem_filter.mp hg
      obtain rfl := List.inj_on_of_nodup_map e.schema.names_nodup hg hf hname
      simp [hvirtual] at hstored
    rw [if_pos hvirtual, hnone]
    rfl
  · have hnames : (e.schema.stored.map Field.name).Nodup :=
      e.schema.names_nodup.sublist (List.filter_sublist.map _)
    have hstored : f ∈ e.schema.stored := List.mem_filter.mpr ⟨hf, by simpa using hvirtual⟩
    have hloaded := find?_loadFields hnames h hstored
    rw [if_neg hvirtual]
    cases hcolumn : row.find? f.name with
    | some raw =>
        rw [hcolumn] at hloaded
        obtain ⟨v, hv, hvalue⟩ := hloaded
        exact ⟨v, hv, by rw [hvalue]; rfl⟩
    | none =>
        rw [hcolumn] at hloaded
        dsimp only at hloaded ⊢
        rw [hloaded]
        rfl

/-! ## The law -/

/-- An entity of a schema, of the given origin, all of whose values were given to fields. -/
structure IsOf (e : Entity) (d : Descriptor) (origin : Origin) : Prop where
  schema : e.schema = d
  origin : e.origin = origin
  proper : e.Proper

/-- What a request for a new entity with given values answers: it is refused for the first name that
is taken, and otherwise the values stand over the defaults. -/
def Made (taken : List String) (d : Descriptor) (values : Row Value)
    (answer : Except EntityError Entity) : Prop :=
  match firstReserved? taken values with
  | some name => answer = .error (.reserved name)
  | none => ∃ e, answer = .ok e ∧ e.IsOf d .built ∧
      ∀ f ∈ d.fields, e.find? f.name = some ((values.find? f.name).getD f.default)

/-- What merging a row of the store into an entity answers: it is refused for a value that cannot be
read back and for a name that is taken. Otherwise stored fields with a column have the value that
the column is read as, and all others keep theirs. -/
def Merged (e : Entity) (row : Row Value) (origin : Origin)
    (answer : Except RepoError Entity) : Prop :=
  match loadFields row e.schema.stored with
  | .error fault => answer = .error (.cast fault)
  | .ok loaded =>
    match firstReserved? ["self", originName] loaded with
    | some name => answer = .error (.entity (.reserved name))
    | none => ∃ m, answer = .ok m ∧ m.IsOf e.schema origin ∧
        ∀ f ∈ e.schema.fields,
          match (if f.virtual then none else row.find? f.name) with
          | some raw => ∃ v, f.kind.load raw = .ok v ∧ m.find? f.name = some v
          | none => m.find? f.name = e.find? f.name

end Entity

namespace Changeset

/-- What a request to stage values answers: it is refused for a name that is taken and for values
that cannot be compared. Otherwise just those are staged that differ from what the entity has. -/
def StagesDiffering (c : Changeset) (values : Row Value) (answer : Staged) : Prop :=
  if values.has reservedName then answer = .error (.reserved reservedName)
  else
    ((∃ p ∈ values, Value.equal? p.2 (c.stored p.1) = none) →
      answer = .error (.comparison .refused)) ∧
    ((∀ p ∈ values, ∃ same, Value.equal? p.2 (c.stored p.1) = some same) →
      ∃ changes, answer = .ok { c with changes } ∧ ∀ name, Row.find? changes name =
        match values.find? name with
        | some v => if Value.equal? v (c.stored name) = some true then none else some v
        | none => c.changes.find? name)

/-- What an entity with its changes is: they are refused for a name that is taken, and otherwise
give the values that the changeset reports. A change under the name of the origin gives no value. It
is put in place of the origin, unless it is `null`. -/
def Applied (c : Changeset) (answer : Except EntityError Entity) : Prop :=
  match Entity.firstReserved? ["self"] c.changes with
  | some name => answer = .error (.reserved name)
  | none => ∃ e, answer = .ok e ∧ e.IsOf c.schema (c.data.changedOrigin c.changes) ∧
      ∀ name changed v, c.fetch name = .ok (changed, v) →
        e.find? name = some (if name = Entity.originName then c.stored name else v)

theorem stagesDiffering_change (hvalues : c.schema.Assigns values) :
    c.StagesDiffering values (c.change values) := by
  unfold StagesDiffering
  by_cases htaken : values.has reservedName = true
  · rw [if_pos htaken, change, if_pos htaken]
  · rw [if_neg htaken, change_eq values (Bool.eq_false_iff.mpr htaken)]
    exact ⟨stageAll_refused hvalues, exists_stageAll hvalues⟩

theorem applied_apply (hdata : c.data.Proper) (hchanges : c.schema.Assigns c.changes) :
    c.Applied c.apply := by
  rw [Applied, apply, Entity.apply_eq hdata hchanges]
  cases Entity.firstReserved? ["self"] c.changes with
  | some name => rfl
  | none =>
      have hproper := Entity.proper_overlay hdata (hchanges.erase Entity.originName)
        (c.data.changedOrigin c.changes)
      exact ⟨_, rfl, ⟨rfl, rfl, hproper⟩, fun name changed v h =>
        find?_applied hdata hchanges (c.data.changedOrigin c.changes) h⟩

end Changeset

namespace Entity

theorem made_of_eq {taken : List String} {answer : Except EntityError Entity}
    (hvalues : d.Assigns values)
    (h : answer = match firstReserved? taken values with
      | some name => .error (.reserved name)
      | none => .ok ⟨d, values, .built⟩) : Made taken d values answer := by
  rw [Made, h]
  cases firstReserved? taken values with
  | some name => rfl
  | none =>
      have hproper : (Entity.mk d values .built).Proper := hvalues
      exact ⟨_, rfl, ⟨rfl, rfl, hproper⟩, fun f hf => find?_of_proper hproper hf⟩

theorem merged_mergeRow {e : Entity} (he : e.Proper) (row : Row Value) (origin : Origin) :
    e.Merged row origin (e.mergeRow row origin) := by
  unfold Merged
  cases hload : loadFields row e.schema.stored with
  | error fault =>
      dsimp only
      rw [mergeRow, hload]
      rfl
  | ok loaded =>
      dsimp only
      rw [mergeRow_eq he hload]
      cases firstReserved? ["self", originName] loaded with
      | some name => rfl
      | none =>
          have hproper := proper_overlay he (assigns_loadFields hload) origin
          exact ⟨_, rfl, ⟨rfl, rfl, hproper⟩, fun f hf => find?_merged he hload origin hf⟩

/-- For every schema and every assignment to its fields, values go under the names of fields just as
they are given, unless a name is taken: into a new entity, from a registry or from the schema
itself, among the changes of an entity, from the changes into the entity, and from a row of the
store. -/
theorem assigned_unless_taken (d : Descriptor) (values : Row Value) (hvalues : d.Assigns values) :
    (∀ r : Registry, r.get d.name = .ok d →
      Made ["self", "name", "cls", "descriptor"] d values (create r d.name values)) ∧
    Made ["cls", "descriptor"] d values (build d values) ∧
    (∀ c : Changeset, c.schema = d → c.StagesDiffering values (c.change values)) ∧
    (∀ c : Changeset, c.schema = d → c.data.Proper → c.changes = values → c.Applied c.apply) ∧
    ∀ (e : Entity) (row : Row Value) (origin : Origin), e.schema = d → e.Proper →
      e.Merged row origin (e.mergeRow row origin) := by
  refine ⟨?_, made_of_eq hvalues (build_eq hvalues), ?_, ?_, ?_⟩
  · intro r hd
    exact made_of_eq hvalues (create_eq hd hvalues)
  · rintro c rfl
    exact Changeset.stagesDiffering_change hvalues
  · rintro c rfl hdata rfl
    exact Changeset.applied_apply hdata hvalues
  · rintro e row origin rfl he
    exact merged_mergeRow he row origin

/-- A new task has the state that it is given. A change of a task's state goes to its origin and
leaves the state as it was, a row with a state is refused, and a task's data are not staged. -/
theorem assigned_unless_taken_task :
    let d : Descriptor := ⟨"Task", "tasks",
      [⟨"id", .integer, false, .null, true⟩, ⟨"state", .string, false, .string "open", false⟩,
        ⟨"data", .string, false, .null, false⟩], [], "id", by decide, by decide⟩
    let r : Registry := ⟨[(d.name, d)], [(d.relation, d.name)]⟩
    let e : Entity := ⟨d, [("id", .int 1)], .loaded⟩
    let c := Changeset.start e
    (∃ n, create r "Task" [("state", .string "done")] = .ok n ∧
      n.find? "state" = some (.string "done") ∧ n.find? "data" = some .null) ∧
    (∃ n, build d [("state", .string "done")] = .ok n ∧ n.find? "state" = some (.string "done")) ∧
    c.change [("data", .string "long")] = .error (.reserved "data") ∧
    (∃ a, { c with changes := [("state", .string "done")] }.apply = .ok a ∧
      a.origin = .other (.string "done") ∧ a.find? "state" = some (.string "open")) ∧
    e.mergeRow [("id", .int 2), ("state", .string "done")] .loaded =
      .error (.entity (.reserved "state")) := by
  intro d r e c
  have hstate : d.Assigns [("state", .string "done")] := ⟨by decide, by decide⟩
  have hdata : d.Assigns [("data", .string "long")] := ⟨by decide, by decide⟩
  have hproper : e.Proper := ⟨by decide, by decide⟩
  obtain ⟨hcreate, hbuild, -, happly, hmerge⟩ := assigned_unless_taken d _ hstate
  obtain ⟨-, -, hchange, -, -⟩ := assigned_unless_taken d _ hdata
  refine ⟨?_, ?_, hchange c rfl, ?_, ?_⟩
  · obtain ⟨n, hn, -, hnew⟩ := hcreate r rfl
    exact ⟨n, hn, hnew ⟨"state", .string, false, .string "open", false⟩ (by simp [d]),
      hnew ⟨"data", .string, false, .null, false⟩ (by simp [d])⟩
  · obtain ⟨n, hn, -, hnew⟩ := hbuild
    exact ⟨n, hn, hnew ⟨"state", .string, false, .string "open", false⟩ (by simp [d])⟩
  · obtain ⟨a, ha, hof, hvalue⟩ :=
      happly { c with changes := [("state", .string "done")] } rfl hproper rfl
    exact ⟨a, ha, hof.origin, hvalue "state" true (.string "done") rfl⟩
  · exact hmerge e [("id", .int 2), ("state", .string "done")] .loaded rfl hproper

end Entity

end RecordMapper
