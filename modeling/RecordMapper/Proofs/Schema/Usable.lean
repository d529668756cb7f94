import RecordMapper.Proofs.Schema.Consistency
import RecordMapper.Proofs.Schema.Defining
import RecordMapper.Proofs.Value.Canonical

/-! # Schemas that can be used

The schemas of a text that is taken stay usable for good: their relationships lead to registered
schemas over keys that are fields, and their defaults are values of their fields. The primary key is
looked for twice, among the declared members for the relationships and among the fields for the
schema, and both find the same one. -/

namespace RecordMapper

open Outcome

/-! ## Defaults -/

/-- The default of a field is cast to itself, as a value of its kind is, and `null`. -/
def Field.KeepsDefault (f : Field) : Prop := f.kind.cast f.default = .ok f.default

theorem Field.keepsDefault_of_null {f : Field} (h : f.default = .null) : f.KeepsDefault := by
  rw [KeepsDefault, h]
  rfl

theorem FieldDeclaration.keepsDefault_of_resolve {schema : String} {d : FieldDeclaration} {f : Field}
    (h : d.resolve schema = .ok f) : f.KeepsDefault := by
  unfold resolve at h
  split at h
  · cases h
  · rename_i k _
    split at h
    · rename_i v hv
      cases h
      exact Kind.cast_cast hv
    · cases h
    · cases h

namespace Declaration

variable {schema : String}

theorem keepsDefault_of_memberFields {m : Member} {fs : List Field}
    (h : memberFields schema m = .ok fs) : ∀ f ∈ fs, f.KeepsDefault := by
  cases m with
  | field d =>
      obtain ⟨f, hf, rfl⟩ := map_eq_ok_iff.mp h
      simpa using FieldDeclaration.keepsDefault_of_resolve hf
  | relationship d =>
      cases h
      exact nofun
  | timestamps =>
      cases h
      intro f hf
      obtain ⟨name, -, rfl⟩ := List.mem_map.mp hf
      exact Field.keepsDefault_of_null rfl

theorem fields_cons_eq_ok_iff {m : Member} {ms : List Member} {fs : List Field} :
    fields schema (m :: ms) = .ok fs ↔
      ∃ front rest, memberFields schema m = .ok front ∧ fields schema ms = .ok rest ∧
        fs = front ++ rest := by
  simp only [fields, bind_eq_ok_iff, pure_eq_ok_iff]
  constructor
  · rintro ⟨front, hfront, rest, hrest, rfl⟩
    exact ⟨front, rest, hfront, hrest, rfl⟩
  · rintro ⟨front, rest, hfront, hrest, rfl⟩
    exact ⟨front, hfront, rest, hrest, rfl⟩

theorem keepsDefault_of_fields {ms : List Member} {fs : List Field}
    (h : fields schema ms = .ok fs) : ∀ f ∈ fs, f.KeepsDefault := by
  induction ms generalizing fs with
  | nil =>
      cases h
      exact nofun
  | cons m ms ih =>
      obtain ⟨front, rest, hfront, hrest, rfl⟩ := fields_cons_eq_ok_iff.mp h
      exact List.forall_mem_append.mpr ⟨keepsDefault_of_memberFields hfront, ih hrest⟩

end Declaration

theorem Descriptor.Defined.keepsDefault {name : String} {fields : List Field}
    {relation : Option String} {rels : List Relationship} {d : Descriptor}
    (h : Defined name fields relation rels d) (hfields : ∀ f ∈ fields, f.KeepsDefault) :
    ∀ f ∈ d.fields, f.KeepsDefault := by
  have hkey : ∀ name primaryKey, (keyField name primaryKey).KeepsDefault :=
    fun _ _ => Field.keepsDefault_of_null rfl
  obtain ⟨keys, heq, -⟩ := h.fields_eq
  rw [heq, List.forall_mem_append, List.forall_mem_map]
  refine ⟨?_, fun key _ => hkey key false⟩
  unfold keyedFields
  split
  · exact hfields
  · exact List.forall_mem_cons.mpr ⟨hkey _ true, hfields⟩

/-! ## The primary key -/

/-- The name of the first field that is marked as the primary key, or that of the implicit one. -/
def Field.keyName (fs : List Field) : String :=
  ((fs.find? (·.primaryKey)).map Field.name).getD SchemaError.implicitKey

theorem Descriptor.primaryKey_of_define {name : String} {fields : List Field}
    {relation : Option String} {rels : List Relationship} {d : Descriptor}
    (h : define name fields relation rels = .ok d) : d.primaryKey = Field.keyName fields := by
  obtain ⟨key, all, -, -, ⟨k, hk, rfl⟩, hof⟩ := define_eq_ok_iff.mp h
  obtain ⟨-, -, -, -, -, -, hprimary⟩ := of_eq_ok_iff.mp hof
  rw [hprimary, Field.keyName, ← List.head?_filter]
  by_cases hnone : fields.filter (·.primaryKey) = []
  · rw [keyedFields_of_nil hnone, List.filter_cons_of_pos rfl, hnone] at hk
    obtain rfl := List.singleton_inj.mp hk
    rw [hnone]
    rfl
  · rw [keyedFields_of_ne_nil hnone] at hk
    rw [hk]
    rfl

namespace Declaration

variable {schema : String}

/-- The name of a field that is marked as the primary key. -/
def markedName? : Member → Option String
  | .field d => if d.primaryKey then some d.name else none
  | _ => none

theorem keyName_eq_markedName? (ms : List Member) :
    keyName ms = (ms.findSome? markedName?).getD SchemaError.implicitKey := rfl

theorem markedName?_of_memberFields {m : Member} {fs : List Field}
    (h : memberFields schema m = .ok fs) :
    (fs.find? (·.primaryKey)).map Field.name = markedName? m := by
  cases m with
  | field d =>
      obtain ⟨f, hf, rfl⟩ := map_eq_ok_iff.mp h
      have hsame : f.name = d.name ∧ f.primaryKey = d.primaryKey := by
        unfold FieldDeclaration.resolve at hf
        split at hf
        · cases hf
        · split at hf <;> cases hf
          exact ⟨rfl, rfl⟩
      rw [markedName?, List.find?_singleton, hsame.2]
      by_cases hmarked : d.primaryKey = true
      · simp [hmarked, hsame.1]
      · simp [hmarked]
  | relationship d =>
      cases h
      rfl
  | timestamps =>
      cases h
      rfl

/-- The members and the fields that they give have the same primary key. -/
theorem keyName_of_fields {ms : List Member} {fs : List Field} (h : fields schema ms = .ok fs) :
    keyName ms = Field.keyName fs := by
  rw [keyName_eq_markedName?, Field.keyName]
  congr 1
  induction ms generalizing fs with
  | nil =>
      cases h
      rfl
  | cons m ms ih =>
      obtain ⟨front, rest, hfront, hrest, rfl⟩ := fields_cons_eq_ok_iff.mp h
      rw [List.findSome?_cons, ← markedName?_of_memberFields hfront, List.find?_append, ih hrest]
      cases front.find? (·.primaryKey) <;> rfl

/-! ## Resolved declarations -/

theorem ownerKey_of_mem_relationships {key : String} {ms : List Member} {rel : Relationship}
    (h : rel ∈ relationships schema key ms) :
    if rel.kind = .belongsTo then rel.relatedKey = none else rel.ownerKey = key := by
  obtain ⟨m, -, hm⟩ := List.mem_filterMap.mp h
  cases m with
  | field d => cases hm
  | timestamps => cases hm
  | relationship d =>
      obtain rfl := Option.some.inj hm
      rcases d with ⟨_ | _ | _, name, related, foreignKey⟩ <;> rfl

/-- What a schema has that a declaration gives. Where the other schema holds the key, that of the
owner is its primary key, and the key of a schema belonged to is its primary key. -/
structure Resolved (s : Descriptor) : Prop where
  relationshipNames_nodup : (s.relationships.map Relationship.name).Nodup
  ownerKey_eq : ∀ rel ∈ s.relationships, rel.kind ≠ .belongsTo → rel.ownerKey = s.primaryKey
  relatedKey_eq : ∀ rel ∈ s.relationships, rel.kind = .belongsTo → rel.relatedKey = none
  keepsDefault : ∀ f ∈ s.fields, f.KeepsDefault

theorem Give.exists_of_mem {ds : List Declaration} {schemas : List Descriptor} (h : Give ds schemas)
    {s : Descriptor} (hs : s ∈ schemas) : ∃ d : Declaration, d.resolve = .ok s := by
  induction h with
  | nil => cases hs
  | @cons d _ _ _ hd _ ih =>
      rcases List.mem_cons.mp hs with rfl | hs
      · exact ⟨d, hd⟩
      · exact ih hs

theorem resolved_of_resolve {d : Declaration} {s : Descriptor} (h : d.resolve = .ok s) :
    Resolved s := by
  simp only [resolve, bind_eq_ok_iff, mapError_eq_ok_iff] at h
  obtain ⟨fs, hfs, hdefine⟩ := h
  have hdefined := Descriptor.defined_of_define hdefine
  have hkey : s.primaryKey = keyName d.members :=
    (Descriptor.primaryKey_of_define hdefine).trans (keyName_of_fields hfs).symm
  constructor
  · rw [hdefined.relationships_eq]
    exact hdefined.relationshipNames_nodup
  · intro rel hrel hkind
    rw [hdefined.relationships_eq] at hrel
    have howner := ownerKey_of_mem_relationships hrel
    rw [if_neg hkind] at howner
    rw [howner, hkey]
  · intro rel hrel hkind
    rw [hdefined.relationships_eq] at hrel
    have hrelated := ownerKey_of_mem_relationships hrel
    rwa [if_pos hkind] at hrelated
  · exact hdefined.keepsDefault (keepsDefault_of_fields hfs)

end Declaration

namespace Registry

variable {r r' : Registry} {d : Descriptor} {rel : Relationship} {j : Joint}

/-! ## Relationships -/

/-- A relationship of a schema leads to a registered schema, over keys that are fields of the two.
Where one schema holds the key, that of the other one is its primary key. -/
structure Leads (r : Registry) (d : Descriptor) (rel : Relationship) (j : Joint) : Prop where
  joint_eq : r.joint d rel.name = .ok j
  registered : r.find? rel.related = some j.related
  ownerKey_eq : j.ownerKey = rel.ownerKey
  hasOwnerKey : d.hasField j.ownerKey = true
  hasRelatedKey : j.related.hasField j.relatedKey = true
  ofOwner : rel.kind ≠ .belongsTo → j.ownerKey = d.primaryKey
  ofRelated : rel.kind = .belongsTo → j.relatedKey = j.related.primaryKey

/-- A schema is registered, all of its relationships lead somewhere, and all of its defaults are
cast to themselves. -/
structure Usable (r : Registry) (d : Descriptor) : Prop where
  registered : r.find? d.name = some d
  leads : ∀ rel ∈ d.relationships, ∃ j, r.Leads d rel j
  keepsDefault : ∀ f ∈ d.fields, f.KeepsDefault

theorem leads_of_joint (hd : Declaration.Resolved d) (hrel : rel ∈ d.relationships)
    (h : r.joint d rel.name = .ok j) : r.Leads d rel j := by
  have hfound : d.relationship? rel.name = some rel :=
    (find?_key_eq_some_iff hd.relationshipNames_nodup).mpr ⟨hrel, rfl⟩
  have hkeys := h
  simp only [joint, hfound, bind_eq_ok_iff, pure_eq_ok_iff] at hkeys
  obtain ⟨related, hrelated, f, hf, g, hg, rfl⟩ := hkeys
  constructor
  · exact h
  · unfold get at hrelated
    split at hrelated
    · rename_i s hs
      rw [hs, Except.ok.inj hrelated]
    · cases hrelated
  · rfl
  · exact Descriptor.hasField_of_field hf
  · exact Descriptor.hasField_of_field hg
  · exact hd.ownerKey_eq rel hrel
  · intro hkind
    simp only [hd.relatedKey_eq rel hrel hkind, Relationship.orElse]

theorem Leads.of_growsTo (h : r.Leads d rel j) (hgrows : r.GrowsTo r') : r'.Leads d rel j :=
  { h with
    joint_eq := hgrows.joint h.joint_eq
    registered := hgrows.find? h.registered }

/-- A schema that can be used can be used for good. -/
theorem Usable.of_growsTo (h : r.Usable d) (hgrows : r.GrowsTo r') : r'.Usable d := by
  refine ⟨hgrows.find? h.registered, ?_, h.keepsDefault⟩
  intro rel hrel
  obtain ⟨j, hj⟩ := h.leads rel hrel
  exact ⟨j, hj.of_growsTo hgrows⟩

theorem Usable.afterAll (h : r.Usable d) (os : List Operation) : (r.afterAll os).Usable d :=
  h.of_growsTo (r.growsTo_afterAll os)

/-! ## Texts that are taken -/

/-- The schemas of a text that is taken can be used. -/
theorem usable_of_extend {text : String} (h : (r.extend text).2 = .ok ()) :
    ∃ added, (r.extend text).1.schemas = r.schemas ++ added ∧
      ∀ d ∈ added, (r.extend text).1.Usable d := by
  have henroll := r.extension_enroll text
  have heq : r.enroll text = ((r.extend text).1, .ok ((r.extend text).1.namesSince r)) := by
    unfold enroll
    rw [← Prod.eta (r.extend text), h]
    rfl
  rw [heq] at henroll
  generalize (r.extend text).1 = after at henroll ⊢
  generalize after.namesSince r = names at henroll
  cases henroll with
  | @all ds added hds hgive hfits hjoint =>
      refine ⟨added, r.schemas_enter added, ?_⟩
      intro d hd
      have hresolved : Declaration.Resolved d := by
        obtain ⟨declared, hdeclared⟩ := Declaration.Give.exists_of_mem hgive hd
        exact Declaration.resolved_of_resolve hdeclared
      refine ⟨find?_enter hfits hd, ?_, hresolved.keepsDefault⟩
      intro rel hrel
      obtain ⟨j, hj⟩ := hjoint d hd rel hrel
      exact ⟨j, leads_of_joint hresolved hrel hj⟩

/-- The schemas that a text adds to a registry that takes it can be used, and still can after any
other schemas and texts, taken or refused. -/
theorem usable_afterAll (r : Registry) {text : String} (h : (r.extend text).2 = .ok ()) :
    ∃ added, (r.extend text).1.schemas = r.schemas ++ added ∧
      ∀ d ∈ added, ∀ os, ((r.extend text).1.afterAll os).Usable d := by
  obtain ⟨added, hadded, husable⟩ := usable_of_extend h
  exact ⟨added, hadded, fun d hd os => (husable d hd).afterAll os⟩

/-- Posts and their authors: a relationship that points forward, a key that is declared behind its
use, and a default that is written as a text. -/
theorem usable_afterAll_authors :
    let text := "schema Post \x7b belongs_to author: User, title: string \x7d " ++
      "schema User \x7b has_many posts: Post foreign_key author_id, " ++
      "age: integer = \"7\", code: uuid primary_key \x7d"
    (empty.extend text).2 = .ok () ∧
      ∃ added, (empty.extend text).1.schemas = added ∧ added.map Descriptor.name = ["Post", "User"] ∧
        ∀ d ∈ added, ∀ os, ((empty.extend text).1.afterAll os).Usable d := by
  intro text
  have hresult : (empty.extend text).2.toOption = some () ∧
      (empty.extend text).1.schemas.map Descriptor.name = ["Post", "User"] := by decide +kernel
  obtain ⟨hoption, hnames⟩ := hresult
  have htaken : (empty.extend text).2 = .ok () := toOption_eq_some_iff.mp hoption
  obtain ⟨added, hadded, husable⟩ := empty.usable_afterAll htaken
  refine ⟨htaken, added, hadded, ?_, husable⟩
  rwa [hadded] at hnames

end Registry

end RecordMapper
