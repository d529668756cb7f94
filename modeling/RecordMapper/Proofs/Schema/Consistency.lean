import RecordMapper.Proofs.Schema.Growth

/-! # What a text leaves in a registry

The two tables of a registry are kept in step whatever is done to it, so that names and relations
lead to the one schema that has them. The step in which a text is refused tells how many of its
schemas are registered all the same. -/

namespace RecordMapper

open Outcome

/-- A step of adding the schemas of a text. -/
inductive ExtendStep where
  | reading
  | resolving
  | registering
  | relating
deriving DecidableEq

/-- The step in which an error arises. -/
def SchemaTextError.step : SchemaTextError → ExtendStep
  | .lex _ | .grammar _ => .reading
  | .schema (.schemaTaken _) | .schema (.relationTaken ..) => .registering
  | .schema (.unresolved ..) => .relating
  | .schema _ | .cast _ => .resolving

/-! ## Reading -/

namespace Declaration

theorem step_of_ofText {text : String} {e : SchemaTextError} (h : ofText text = .error e) :
    e.step = .reading := by
  unfold ofText at h
  split at h
  split at h <;> cases h <;> rfl

end Declaration

/-! ## Resolving -/

/-- An outcome is no error, or one of resolving a declaration. -/
def Resolving {α : Type} (x : Except SchemaTextError α) : Prop :=
  ∀ e, x = .error e → e.step = .resolving

namespace Resolving

variable {α β : Type}

theorem ok (a : α) : Resolving (.ok a : Except SchemaTextError α) := by
  intro e h
  cases h

theorem error {e : SchemaTextError} (h : e.step = .resolving) :
    Resolving (.error e : Except SchemaTextError α) := by
  intro f hf
  cases hf
  exact h

theorem bind {x : Except SchemaTextError α} {f : α → Except SchemaTextError β} (hx : Resolving x)
    (hf : ∀ a, Resolving (f a)) : Resolving (x >>= f) := by
  cases x with
  | error e => exact .error (hx e rfl)
  | ok a => exact hf a

theorem map {x : Except SchemaTextError α} (f : α → β) (hx : Resolving x) : Resolving (x.map f) := by
  cases x with
  | error e => exact .error (hx e rfl)
  | ok a => exact .ok (f a)

end Resolving

theorem FieldDeclaration.resolving_resolve (schema : String) (d : FieldDeclaration) :
    Resolving (d.resolve schema) := by
  unfold resolve
  split
  · exact .error rfl
  · split
    · exact .ok _
    · exact .error rfl
    · exact .error rfl

namespace Descriptor

theorem step_of_withKey {schema : String} {fields : List Field} {e : SchemaError}
    (h : withKey schema fields = .error e) : (SchemaTextError.schema e).step = .resolving := by
  unfold withKey at h
  split at h
  · split at h <;> cases h
    rfl
  · cases h
  · cases h
    rfl

theorem step_of_withForeignKeys {schema : String} {fields : List Field} {seen : List String}
    {rs : List Relationship} {e : SchemaError}
    (h : withForeignKeys schema fields seen rs = .error e) :
    (SchemaTextError.schema e).step = .resolving := by
  fun_induction withForeignKeys schema fields seen rs with
  | case1 => cases h
  | case2 => cases h; rfl
  | case3 => cases h; rfl
  | case4 fields seen r rs _ _ _ ih => exact ih h
  | case5 fields seen r rs _ _ _ ih => exact ih h

theorem step_of_of {name relation : String} {fields : List Field}
    {relationships : List Relationship} {key : String} {e : SchemaError}
    (h : of name relation fields relationships key = .error e) :
    (SchemaTextError.schema e).step = .resolving := by
  unfold of at h
  split at h
  · split at h <;> cases h
    rfl
  · cases h
    rfl

theorem resolving_define (name : String) (fields : List Field) (relation : Option String)
    (relationships : List Relationship) :
    Resolving ((define name fields relation relationships).mapError .schema) := by
  unfold define
  cases hkey : withKey name fields with
  | error e => exact .error (step_of_withKey hkey)
  | ok x =>
      obtain ⟨key, keyed⟩ := x
      dsimp only [bind, Except.bind]
      cases hforeign : withForeignKeys name keyed [] relationships with
      | error e => exact .error (step_of_withForeignKeys hforeign)
      | ok all =>
          dsimp only
          intro e he
          cases hof : of name (Relationship.orElse relation (Naming.defaultRelation name)) all
              relationships key with
          | error f =>
              rw [hof] at he
              cases he
              exact step_of_of hof
          | ok d =>
              rw [hof] at he
              cases he

end Descriptor

namespace Declaration

theorem resolving_fields (schema : String) (ms : List Member) : Resolving (fields schema ms) := by
  induction ms with
  | nil => exact .ok []
  | cons m ms ih =>
      refine Resolving.bind ?_ fun front => ih.bind fun rest => .ok _
      cases m with
      | field d => exact (d.resolving_resolve schema).map _
      | relationship d => exact .ok []
      | timestamps => exact .ok _

/-- A declaration that gives no schema is refused in the step of resolving. -/
theorem resolving_resolve (d : Declaration) : Resolving d.resolve :=
  (resolving_fields d.name d.members).bind fun fs => Descriptor.resolving_define _ fs _ _

theorem name_of_resolve {d : Declaration} {s : Descriptor} (h : d.resolve = .ok s) :
    s.name = d.name := by
  simp only [resolve, Descriptor.define, bind_eq_ok_iff, mapError_eq_ok_iff] at h
  obtain ⟨fs, -, x, -, all, -, h⟩ := h
  unfold Descriptor.of at h
  split at h
  · split at h <;> cases h
    rfl
  · cases h

/-- The schemas of declarations, one for each in order. -/
def Give (ds : List Declaration) (schemas : List Descriptor) : Prop :=
  List.Forall₂ (fun d s => d.resolve = .ok s) ds schemas

theorem Give.names_eq {ds : List Declaration} {schemas : List Descriptor} (h : Give ds schemas) :
    schemas.map Descriptor.name = ds.map Declaration.name := by
  induction h with
  | nil => rfl
  | cons hd _ ih => rw [List.map_cons, List.map_cons, name_of_resolve hd, ih]

/-- All declarations give schemas, or the first one that does not is refused. -/
theorem resolveAll_cases (ds : List Declaration) :
    (∃ schemas, resolveAll ds = .ok schemas ∧ Give ds schemas) ∨
      ∃ front d back given e, ds = front ++ d :: back ∧ Give front given ∧ d.resolve = .error e ∧
        resolveAll ds = .error e := by
  induction ds with
  | nil => exact .inl ⟨[], rfl, .nil⟩
  | cons d ds ih =>
      cases hd : d.resolve with
      | error e => exact .inr ⟨[], d, ds, [], e, rfl, .nil, hd, by rw [resolveAll, hd]; rfl⟩
      | ok s =>
          rcases ih with ⟨schemas, hds, hgive⟩ | ⟨front, f, back, given, e, rfl, hfront, hf, hds⟩
          · exact .inl ⟨s :: schemas, by rw [resolveAll, hd, hds]; rfl, .cons hd hgive⟩
          · exact .inr ⟨d :: front, f, back, s :: given, e, rfl, .cons hd hfront, hf,
              by rw [resolveAll, hd, hds]; rfl⟩

end Declaration

namespace Registry

variable {r : Registry}

/-! ## Following relationships -/

/-- All relationships of schemas lead somewhere, or one of them does not. -/
theorem checkRelationships_cases (r : Registry) (d : Descriptor) (rels : List Relationship) :
    r.checkRelationships d rels = .ok () ∧ (∀ rel ∈ rels, Succeeds (r.joint d rel.name)) ∨
      ∃ rel ∈ rels, ∃ cause, r.joint d rel.name = .error cause ∧
        r.checkRelationships d rels = .error (.unresolved d.name rel.name cause) := by
  induction rels with
  | nil => exact .inl ⟨rfl, by simp⟩
  | cons rel rels ih =>
      cases hrel : r.joint d rel.name with
      | error cause =>
          exact .inr ⟨rel, List.mem_cons_self, cause, hrel, by rw [checkRelationships, hrel]⟩
      | ok j =>
          have heq : r.checkRelationships d (rel :: rels) = r.checkRelationships d rels := by
            rw [checkRelationships, hrel]
          rw [heq]
          rcases ih with ⟨hok, hall⟩ | ⟨bad, hmem, hbad⟩
          · exact .inl ⟨hok, List.forall_mem_cons.mpr ⟨⟨j, hrel⟩, hall⟩⟩
          · exact .inr ⟨bad, List.mem_cons_of_mem rel hmem, hbad⟩

theorem checkAll_cases (r : Registry) (ds : List Descriptor) :
    r.checkAll ds = .ok () ∧
        (∀ d ∈ ds, ∀ rel ∈ d.relationships, Succeeds (r.joint d rel.name)) ∨
      ∃ d ∈ ds, ∃ rel ∈ d.relationships, ∃ cause, r.joint d rel.name = .error cause ∧
        r.checkAll ds = .error (.unresolved d.name rel.name cause) := by
  induction ds with
  | nil => exact .inl ⟨rfl, by simp⟩
  | cons d ds ih =>
      rcases r.checkRelationships_cases d d.relationships with
        ⟨hok, hall⟩ | ⟨rel, hmem, cause, hjoint, herror⟩
      · have heq : r.checkAll (d :: ds) = r.checkAll ds := by
          rw [checkAll, hok]
          rfl
        rw [heq]
        rcases ih with ⟨hds, hrest⟩ | ⟨bad, hbad, hrest⟩
        · exact .inl ⟨hds, List.forall_mem_cons.mpr ⟨hall, hrest⟩⟩
        · exact .inr ⟨bad, List.mem_cons_of_mem d hbad, hrest⟩
      · refine .inr ⟨d, List.mem_cons_self, rel, hmem, cause, hjoint, ?_⟩
        rw [checkAll, herror]
        rfl

/-! ## A text -/

theorem name_notMem_of_fits {ds : List Descriptor} (h : r.Fits ds) :
    ∀ d ∈ ds, d.name ∉ r.names := by
  induction ds generalizing r with
  | nil => simp
  | cons d ds ih =>
      obtain ⟨hd, hds⟩ := h
      refine List.forall_mem_cons.mpr ⟨hd.name, fun s hs hmem => ih hds s hs ?_⟩
      rw [names_enter]
      exact List.mem_append_left _ hmem

/-- The names that are new are those of the schemas that were entered. -/
theorem namesSince_enter {ds : List Descriptor} (h : r.Fits ds) :
    (r.enter ds).namesSince r = ds.map Descriptor.name := by
  rw [namesSince, names_enter, List.filter_append]
  have hold : r.names.filter (fun n => !r.names.contains n) = [] := by
    simp [List.filter_eq_nil_iff]
  have hnew : (ds.map Descriptor.name).filter (fun n => !r.names.contains n) =
      ds.map Descriptor.name := by
    refine List.filter_eq_self.mpr fun n hn => ?_
    obtain ⟨d, hd, rfl⟩ := List.mem_map.mp hn
    simpa using name_notMem_of_fits h d hd
  rw [hold, hnew, List.nil_append]

/-- What a text leaves in a registry, and how it is answered. A text that cannot be read adds
nothing, nor does one with a declaration that gives no schema. Otherwise the schemas before the
first one that clashes are added, and all of them if none does: then either one of their
relationships leads nowhere, or the names of the declarations are the answer. -/
inductive Extension (r : Registry) (text : String) :
    Registry × Except SchemaTextError (List String) → Prop where
  | unread {e : SchemaTextError} : Declaration.ofText text = .error e → e.step = .reading →
      Extension r text (r, .error e)
  | unresolved {front back : List Declaration} {d : Declaration} {given : List Descriptor}
      {e : SchemaTextError} : Declaration.ofText text = .ok (front ++ d :: back) →
      Declaration.Give front given → d.resolve = .error e → e.step = .resolving →
      Extension r text (r, .error e)
  | upTo {ds : List Declaration} {front back : List Descriptor} {d : Descriptor} {e : SchemaError} :
      Declaration.ofText text = .ok ds → Declaration.Give ds (front ++ d :: back) →
      r.Fits front → (r.enter front).Clashes d e →
      (SchemaTextError.schema e).step = .registering →
      Extension r text (r.enter front, .error (.schema e))
  | unrelated {ds : List Declaration} {schemas : List Descriptor} {d : Descriptor}
      {rel : Relationship} {cause : LookupError} :
      Declaration.ofText text = .ok ds → Declaration.Give ds schemas → r.Fits schemas →
      d ∈ schemas → rel ∈ d.relationships → (r.enter schemas).joint d rel.name = .error cause →
      Extension r text (r.enter schemas, .error (.schema (.unresolved d.name rel.name cause)))
  | all {ds : List Declaration} {schemas : List Descriptor} :
      Declaration.ofText text = .ok ds → Declaration.Give ds schemas → r.Fits schemas →
      (∀ d ∈ schemas, ∀ rel ∈ d.relationships, Succeeds ((r.enter schemas).joint d rel.name)) →
      Extension r text (r.enter schemas, .ok (ds.map Declaration.name))

theorem step_of_clashes {d : Descriptor} {e : SchemaError} (h : r.Clashes d e) :
    (SchemaTextError.schema e).step = .registering := by
  cases h <;> rfl

theorem extension_enroll (r : Registry) (text : String) : r.Extension text (r.enroll text) := by
  unfold enroll extend
  cases hds : Declaration.ofText text with
  | error e => exact .unread hds (Declaration.step_of_ofText hds)
  | ok ds =>
      dsimp only
      rcases Declaration.resolveAll_cases ds with
        ⟨schemas, hschemas, hgive⟩ | ⟨front, d, back, given, e, rfl, hfront, hd, herror⟩
      · have hregisters := r.registers_registerAll schemas
        rw [hschemas]
        dsimp only
        generalize r.registerAll schemas = x at hregisters ⊢
        cases hregisters with
        | upTo hfits hclash => exact .upTo hds hgive hfits hclash (step_of_clashes hclash)
        | all hfits =>
            rcases (r.enter schemas).checkAll_cases schemas with
              ⟨hok, hrelated⟩ | ⟨d, hd, rel, hrel, cause, hcause, herror⟩
            · dsimp only
              rw [hok]
              have hnames := (namesSince_enter hfits).trans hgive.names_eq
              have h := Extension.all (r := r) hds hgive hfits hrelated
              rwa [← hnames] at h
            · dsimp only
              rw [herror]
              exact .unrelated hds hgive hfits hd hrel hcause
      · rw [herror]
        exact .unresolved hds hfront hd (d.resolving_resolve e hd)

/-! ## Runs -/

/-- The tables of a registry are in step: each schema stands in one of them under its name, in the
other its name stands under its relation, and no key stands twice. -/
structure InStep (r : Registry) : Prop where
  byName_eq : r.byName = r.schemas.map fun d => (d.name, d)
  byRelation_eq : r.byRelation = r.schemas.map fun d => (d.relation, d.name)
  names_nodup : r.names.Nodup
  relations_nodup : r.relations.Nodup

namespace InStep

theorem empty : Registry.empty.InStep where
  byName_eq := rfl
  byRelation_eq := rfl
  names_nodup := List.nodup_nil
  relations_nodup := List.nodup_nil

/-- One more schema keeps the tables in step. -/
theorem enter_singleton {d : Descriptor} (h : r.InStep) (hd : r.Free d) : (r.enter [d]).InStep where
  byName_eq := by
    rw [schemas_enter, List.map_append, ← h.byName_eq]
    rfl
  byRelation_eq := by
    rw [schemas_enter, List.map_append, ← h.byRelation_eq]
    rfl
  names_nodup := by
    rw [names_enter]
    exact List.nodup_append_comm.mp (List.nodup_cons.mpr ⟨hd.name, h.names_nodup⟩)
  relations_nodup := by
    rw [relations_enter]
    exact List.nodup_append_comm.mp (List.nodup_cons.mpr ⟨hd.relation, h.relations_nodup⟩)

theorem enter {ds : List Descriptor} (h : r.InStep) (hds : r.Fits ds) : (r.enter ds).InStep := by
  induction ds generalizing r with
  | nil => rwa [enter_nil]
  | cons d ds ih =>
      rw [enter_cons]
      exact ih (h.enter_singleton hds.1) hds.2

/-- An operation keeps the tables in step, whether it succeeds or fails. -/
theorem after (h : r.InStep) (o : Operation) : (r.after o).InStep := by
  obtain ⟨ds, hds, heq⟩ := r.entered_after o
  rw [heq]
  exact h.enter hds

theorem afterAll (h : r.InStep) (os : List Operation) : (r.afterAll os).InStep := by
  induction os generalizing r with
  | nil => exact h
  | cons o os ih => exact ih (h.after o)

end InStep

/-- A table whose keys differ gives what stands under a key. -/
theorem find?_table_iff {α β : Type} {key : α → String} {value : α → β} {xs : List α}
    (hnodup : (xs.map key).Nodup) {k : String} {v : β} :
    Row.find? (xs.map fun x => (key x, value x)) k = some v ↔
      ∃ x ∈ xs, key x = k ∧ value x = v := by
  have hkeys : ((xs.map fun x => (key x, value x)).map Prod.fst).Nodup := by
    simpa [Function.comp_def] using hnodup
  constructor
  · intro h
    obtain ⟨x, hx, heq⟩ := List.mem_map.mp (Row.mem_of_find? h)
    exact ⟨x, hx, Prod.mk.inj heq⟩
  · rintro ⟨x, hx, rfl, rfl⟩
    exact Row.find?_of_mem hkeys (List.mem_map_of_mem hx)

namespace InStep

theorem relations_eq (h : r.InStep) : r.relations = r.schemas.map Descriptor.relation := by
  rw [relations, Row.keys, h.byRelation_eq, List.map_map]
  rfl

theorem find?_eq_some_iff (h : r.InStep) {name : String} {d : Descriptor} :
    r.find? name = some d ↔ d ∈ r.schemas ∧ d.name = name := by
  have hnames : (r.schemas.map Descriptor.name).Nodup := by
    have heq : r.names = r.schemas.map Descriptor.name := by
      rw [names, Row.keys, h.byName_eq, List.map_map]
      rfl
    exact heq ▸ h.names_nodup
  rw [find?, h.byName_eq, find?_table_iff hnames]
  constructor
  · rintro ⟨s, hs, hname, rfl⟩
    exact ⟨hs, hname⟩
  · rintro ⟨hd, hname⟩
    exact ⟨d, hd, hname, rfl⟩

/-- A relation leads to the schema that has it, or it is mapped to none. -/
theorem forRelation_cases (h : r.InStep) (relation : String) :
    (∃ d ∈ r.schemas, d.relation = relation ∧ r.forRelation relation = .ok (some d)) ∨
      relation ∉ r.relations ∧ r.forRelation relation = .ok none := by
  cases hmapped : r.byRelation.find? relation with
  | none => exact .inr ⟨Row.find?_eq_none_iff.mp hmapped, by simp only [forRelation, hmapped]⟩
  | some name =>
      have hentry := hmapped
      rw [h.byRelation_eq, find?_table_iff (h.relations_eq ▸ h.relations_nodup)] at hentry
      obtain ⟨d, hd, hrelation, rfl⟩ := hentry
      have hfound : r.find? d.name = some d := h.find?_eq_some_iff.mpr ⟨hd, rfl⟩
      exact .inl ⟨d, hd, hrelation, by simp only [forRelation, hmapped, hfound]⟩

end InStep

/-- The tables are in step, so that a name leads to the schema of the name, and a relation by way of
a name to the schema of the relation. No look-up of a relation breaks off between the tables. -/
structure Consistent (r : Registry) : Prop extends r.InStep where
  find?_iff : ∀ name d, r.find? name = some d ↔ d ∈ r.schemas ∧ d.name = name
  forRelation_iff : ∀ relation d,
    r.forRelation relation = .ok (some d) ↔ d ∈ r.schemas ∧ d.relation = relation
  forRelation_eq_ok : ∀ relation, ∃ found, r.forRelation relation = .ok found

theorem InStep.consistent (h : r.InStep) : r.Consistent where
  toInStep := h
  find?_iff _ _ := h.find?_eq_some_iff
  forRelation_iff relation d := by
    rcases h.forRelation_cases relation with ⟨s, hs, hrelation, heq⟩ | ⟨hnot, heq⟩
    · rw [heq]
      constructor
      · rintro ⟨⟩
        exact ⟨hs, hrelation⟩
      · rintro ⟨hd, hdrelation⟩
        have hnodup : (r.schemas.map Descriptor.relation).Nodup :=
          h.relations_eq ▸ h.relations_nodup
        rw [List.inj_on_of_nodup_map hnodup hs hd (hrelation.trans hdrelation.symm)]
    · rw [heq]
      constructor
      · rintro ⟨⟩
      · rintro ⟨hd, hdrelation⟩
        rw [h.relations_eq] at hnot
        exact absurd (List.mem_map.mpr ⟨d, hd, hdrelation⟩) hnot
  forRelation_eq_ok relation := by
    rcases h.forRelation_cases relation with ⟨s, -, -, heq⟩ | ⟨-, heq⟩
    · exact ⟨some s, heq⟩
    · exact ⟨none, heq⟩

/-- After any operations a registry is consistent, and whatever is done next keeps the schemas that
are there in their places. A schema that is registered comes behind them, unless it clashes with one
of them, and a text adds what the step in which it is refused tells. -/
theorem consistent_afterAll (before later : List Operation) (text : String) :
    let r := empty.afterAll before
    r.Consistent ∧ r.GrowsTo (r.afterAll later) ∧
      (∀ d, r.Free d ∧ r.register d = .ok (r.enter [d]) ∨
        ∃ e, r.register d = .error e ∧ r.Clashes d e) ∧
      r.Extension text (r.enroll text) := by
  intro r
  have hstep : r.InStep := InStep.empty.afterAll before
  exact ⟨hstep.consistent, r.growsTo_afterAll later, r.register_cases, r.extension_enroll text⟩

end Registry

end RecordMapper
