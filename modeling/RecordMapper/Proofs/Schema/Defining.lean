import Mathlib.Data.List.Nodup
import RecordMapper.Proofs.Outcome
import RecordMapper.Schema.Define

/-! # What a definition establishes

A definition is taken exactly when its names are free where they are looked at. The fields of the
schema are the declared ones with the implicit key in front and the keys of the schemas belonged to
behind. Names are looked at in the order of the relationships, so that a key that is added for a
relationship can still take the name of that one or of an earlier one. -/

namespace RecordMapper.Descriptor

open Outcome

variable {schema : String} {fields all : List Field} {r : Relationship} {rels : List Relationship}

/-! ## The primary key -/

/-- The declared fields with the implicit key in front if no other key is declared. -/
def keyedFields (fields : List Field) : List Field :=
  if fields.any (·.primaryKey) then fields
  else keyField SchemaError.implicitKey true :: fields

theorem keyedFields_of_nil (h : fields.filter (·.primaryKey) = []) :
    keyedFields fields = keyField SchemaError.implicitKey true :: fields := by
  have hany : fields.any (·.primaryKey) = false := by simpa [List.filter_eq_nil_iff] using h
  rw [keyedFields, hany]
  rfl

theorem keyedFields_of_ne_nil (h : fields.filter (·.primaryKey) ≠ []) :
    keyedFields fields = fields := by
  have hany : fields.any (·.primaryKey) = true := by
    by_contra hany
    exact h (by simpa [List.filter_eq_nil_iff] using hany)
  rw [keyedFields, if_pos hany]

/-- At most one key is declared, and the name of the implicit one is free if none is. -/
structure Keyed (fields : List Field) : Prop where
  single : (fields.filter (·.primaryKey)).length ≤ 1
  implicit : fields.filter (·.primaryKey) = [] → SchemaError.implicitKey ∉ fields.map Field.name

/-- Fields are keyed, and then one of them is the key. -/
theorem withKey_eq_ok_iff {key : String} :
    withKey schema fields = .ok (key, all) ↔
      Keyed fields ∧ all = keyedFields fields ∧
        ∃ k, all.filter (·.primaryKey) = [k] ∧ k.name = key := by
  unfold withKey
  split
  · rename_i hnone
    have himplicit : fields.any (·.name == SchemaError.implicitKey) = true ↔
        SchemaError.implicitKey ∈ fields.map Field.name := by
      simp
    have hfilter : (keyField SchemaError.implicitKey true :: fields).filter (·.primaryKey) =
        [keyField SchemaError.implicitKey true] := by
      rw [List.filter_cons_of_pos rfl, hnone]
    rw [keyedFields_of_nil hnone]
    split
    · rename_i htaken
      exact iff_of_false nofun fun h => h.1.implicit hnone (himplicit.mp htaken)
    · rename_i hfree
      constructor
      · rintro ⟨⟩
        exact ⟨⟨by simp [hnone], fun _ hmem => hfree (himplicit.mpr hmem)⟩, rfl, _, hfilter, rfl⟩
      · rintro ⟨-, rfl, k, hk, rfl⟩
        rw [hfilter] at hk
        cases hk
        rfl
  · rename_i k hk
    rw [keyedFields_of_ne_nil (by simp [hk])]
    constructor
    · rintro ⟨⟩
      exact ⟨⟨by simp [hk], fun hnone => by simp [hk] at hnone⟩, rfl, k, hk, rfl⟩
    · rintro ⟨-, rfl, k', hk', rfl⟩
      rw [hk] at hk'
      cases hk'
      rfl
  · rename_i hnone hone
    refine iff_of_false nofun fun h => ?_
    have hsingle := h.1.single
    generalize fields.filter (·.primaryKey) = ks at hnone hone hsingle
    match ks with
    | [] => exact hnone rfl
    | [k] => exact hone k rfl
    | _ :: _ :: _ => simp at hsingle

theorem exists_key (h : Keyed fields) : ∃ k, (keyedFields fields).filter (·.primaryKey) = [k] := by
  cases hkeys : fields.filter (·.primaryKey) with
  | nil => exact ⟨_, by rw [keyedFields_of_nil hkeys, List.filter_cons_of_pos rfl, hkeys]⟩
  | cons k ks =>
      have hks : ks = [] := by
        have hsingle := h.single
        rw [hkeys] at hsingle
        simpa using hsingle
      exact ⟨k, by rw [keyedFields_of_ne_nil (by simp [hkeys]), hkeys, hks]⟩

/-! ## Foreign keys -/

/-- The fields that hold the keys of the schemas belonged to, in the order of the relationships. -/
def ownerKeys (rels : List Relationship) : List String :=
  (rels.filter (·.kind = .belongsTo)).map Relationship.ownerKey

/-- The names of relationships are different, none is that of a field, and none is that of the key
of a relationship before it. -/
structure Free (fields : List Field) (rels : List Relationship) : Prop where
  nodup : (rels.map Relationship.name).Nodup
  notField : ∀ r ∈ rels, r.name ∉ fields.map Field.name
  later : rels.Pairwise fun s r => s.kind = .belongsTo → s.ownerKey ≠ r.name

theorem free_cons_iff :
    Free fields (r :: rels) ↔ r.name ∉ rels.map Relationship.name ∧ r.name ∉ fields.map Field.name ∧
      (∀ s ∈ rels, r.kind = .belongsTo → r.ownerKey ≠ s.name) ∧ Free fields rels := by
  constructor
  · rintro ⟨hnodup, hfields, hlater⟩
    obtain ⟨hname, hnodup⟩ := List.nodup_cons.mp hnodup
    obtain ⟨hfield, hfields⟩ := List.forall_mem_cons.mp hfields
    obtain ⟨hkey, hlater⟩ := List.pairwise_cons.mp hlater
    exact ⟨hname, hfield, hkey, hnodup, hfields, hlater⟩
  · rintro ⟨hname, hfield, hkey, hnodup, hfields, hlater⟩
    exact ⟨List.nodup_cons.mpr ⟨hname, hnodup⟩, List.forall_mem_cons.mpr ⟨hfield, hfields⟩,
      List.pairwise_cons.mpr ⟨hkey, hlater⟩⟩

theorem any_name_iff {name : String} :
    fields.any (·.name == name) = true ↔ name ∈ fields.map Field.name := by
  simp

theorem forall_notMem_cons_iff {name : String} {seen : List String} :
    (∀ s ∈ rels, s.name ∉ name :: seen) ↔
      name ∉ rels.map Relationship.name ∧ ∀ s ∈ rels, s.name ∉ seen := by
  simp only [List.mem_cons, not_or, List.mem_map, not_exists, not_and, forall_and]

theorem names_addKey (fields : List Field) (key : String) :
    (fields ++ [keyField key false]).map Field.name = fields.map Field.name ++ [key] := by
  simp [keyField]

theorem free_addKey_iff {key : String} :
    Free (fields ++ [keyField key false]) rels ↔ Free fields rels ∧ ∀ s ∈ rels, key ≠ s.name := by
  constructor
  · rintro ⟨hnodup, hfields, hlater⟩
    simp only [names_addKey, List.mem_append, List.mem_singleton, not_or] at hfields
    exact ⟨⟨hnodup, fun s hs => (hfields s hs).1, hlater⟩, fun s hs h => (hfields s hs).2 h.symm⟩
  · rintro ⟨⟨hnodup, hfields, hlater⟩, hkey⟩
    refine ⟨hnodup, fun s hs => ?_, hlater⟩
    rw [names_addKey, List.mem_append, List.mem_singleton, not_or]
    exact ⟨hfields s hs, fun h => hkey s hs h.symm⟩

/-- Relationships are taken when their names are free. -/
theorem succeeds_withForeignKeys_iff {seen : List String} :
    Succeeds (withForeignKeys schema fields seen rels) ↔
      Free fields rels ∧ ∀ r ∈ rels, r.name ∉ seen := by
  fun_induction withForeignKeys schema fields seen rels with
  | case1 fields seen =>
      exact iff_of_true (succeeds_ok _) ⟨⟨List.nodup_nil, nofun, .nil⟩, nofun⟩
  | case2 fields seen r rs hseen =>
      exact iff_of_false (not_succeeds_error _) fun h => h.2 r List.mem_cons_self hseen
  | case3 fields seen r rs _ hclash =>
      rw [any_name_iff] at hclash
      exact iff_of_false (not_succeeds_error _) fun h => h.1.notField r List.mem_cons_self hclash
  | case4 fields seen r rs hseen hclash hadded ih =>
      rw [any_name_iff] at hclash
      rw [ih, free_addKey_iff, free_cons_iff, List.forall_mem_cons, forall_notMem_cons_iff]
      have hbelongs : r.kind = .belongsTo := hadded.1
      tauto
  | case5 fields seen r rs hseen hclash hadded ih =>
      rw [any_name_iff] at hclash
      rw [ih, free_cons_iff, List.forall_mem_cons, forall_notMem_cons_iff]
      -- a key that is declared or added already is no name of a relationship that is free
      have hkey : Free fields rs → ∀ s ∈ rs, r.kind = .belongsTo → r.ownerKey ≠ s.name := by
        intro hfree s hs hbelongs heq
        have hdeclared : r.ownerKey ∈ fields.map Field.name := by
          by_contra hnew
          exact hadded ⟨hbelongs, by simpa using hnew⟩
        exact hfree.notField s hs (heq ▸ hdeclared)
      tauto

/-- The fields with the keys of the schemas belonged to: the fields keep their order, the keys that
are new come behind, none comes twice and none is missing. -/
structure WithKeys (fields : List Field) (rels : List Relationship) (all : List Field) : Prop where
  added : ∃ keys : List String, all = fields ++ keys.map (keyField · false) ∧
    keys.Sublist (ownerKeys rels)
  nodup : (fields.map Field.name).Nodup → (all.map Field.name).Nodup
  ownerKeys_subset : ownerKeys rels ⊆ all.map Field.name

theorem ownerKeys_cons_of_belongsTo (h : r.kind = .belongsTo) :
    ownerKeys (r :: rels) = r.ownerKey :: ownerKeys rels := by
  simp [ownerKeys, h]

theorem ownerKeys_cons_of_not_belongsTo (h : r.kind ≠ .belongsTo) :
    ownerKeys (r :: rels) = ownerKeys rels := by
  simp [ownerKeys, h]

theorem WithKeys.add (hnew : r.ownerKey ∉ fields.map Field.name) (hbelongs : r.kind = .belongsTo)
    (h : WithKeys (fields ++ [keyField r.ownerKey false]) rels all) :
    WithKeys fields (r :: rels) all := by
  obtain ⟨⟨keys, rfl, hkeys⟩, hnodup, hsubset⟩ := h
  constructor
  · refine ⟨r.ownerKey :: keys, by simp, ?_⟩
    rw [ownerKeys_cons_of_belongsTo hbelongs]
    exact hkeys.cons_cons _
  · intro hfields
    refine hnodup ?_
    rw [names_addKey, ← List.concat_eq_append]
    exact hfields.concat hnew
  · rw [ownerKeys_cons_of_belongsTo hbelongs]
    exact List.cons_subset.mpr ⟨by simp [keyField], hsubset⟩

theorem WithKeys.skip (hold : r.kind = .belongsTo → r.ownerKey ∈ fields.map Field.name)
    (h : WithKeys fields rels all) : WithKeys fields (r :: rels) all := by
  obtain ⟨⟨keys, rfl, hkeys⟩, hnodup, hsubset⟩ := h
  by_cases hbelongs : r.kind = .belongsTo
  · have hmem : r.ownerKey ∈ (fields ++ keys.map (keyField · false)).map Field.name := by
      rw [List.map_append]
      exact List.mem_append_left _ (hold hbelongs)
    constructor
    · rw [ownerKeys_cons_of_belongsTo hbelongs]
      exact ⟨keys, rfl, hkeys.cons _⟩
    · exact hnodup
    · rw [ownerKeys_cons_of_belongsTo hbelongs]
      exact List.cons_subset.mpr ⟨hmem, hsubset⟩
  · rw [← ownerKeys_cons_of_not_belongsTo hbelongs] at hkeys hsubset
    exact ⟨⟨keys, rfl, hkeys⟩, hnodup, hsubset⟩

theorem withKeys_of_withForeignKeys {seen : List String}
    (h : withForeignKeys schema fields seen rels = .ok all) : WithKeys fields rels all := by
  fun_induction withForeignKeys schema fields seen rels with
  | case1 fields seen =>
      cases h
      exact ⟨⟨[], by simp, List.nil_sublist _⟩, id, by simp [ownerKeys]⟩
  | case2 => cases h
  | case3 => cases h
  | case4 fields seen r rs _ _ hadded ih =>
      exact .add (by simpa using hadded.2) hadded.1 (ih h)
  | case5 fields seen r rs _ _ hadded ih =>
      exact .skip (fun hbelongs => by simpa [hbelongs] using hadded) (ih h)

theorem WithKeys.filter_primaryKey (h : WithKeys fields rels all) :
    all.filter (·.primaryKey) = fields.filter (·.primaryKey) := by
  obtain ⟨⟨keys, rfl, -⟩, -, -⟩ := h
  simp [List.filter_append, List.filter_map, Function.comp_def, keyField]

theorem WithKeys.names_nodup_iff (h : WithKeys fields rels all) :
    (all.map Field.name).Nodup ↔ (fields.map Field.name).Nodup := by
  refine ⟨fun hall => ?_, h.nodup⟩
  obtain ⟨⟨keys, rfl, -⟩, -, -⟩ := h
  rw [List.map_append] at hall
  exact hall.of_append_left

theorem WithKeys.mem_names_iff (h : WithKeys fields rels all) {name : String} :
    name ∈ all.map Field.name ↔ name ∈ fields.map Field.name ∨ name ∈ ownerKeys rels := by
  obtain ⟨⟨keys, rfl, hkeys⟩, -, hsubset⟩ := h
  have hnames : (keys.map (keyField · false)).map Field.name = keys := by
    simp [Function.comp_def, keyField]
  rw [List.map_append, hnames] at hsubset ⊢
  constructor
  · intro hmem
    exact (List.mem_append.mp hmem).imp_right (hkeys.subset ·)
  · rintro (hmem | hmem)
    · exact List.mem_append_left _ hmem
    · exact hsubset hmem

/-! ## Definitions -/

theorem of_eq_ok_iff {name relation key : String} {d : Descriptor} :
    of name relation fields rels key = .ok d ↔
      (fields.map Field.name).Nodup ∧ key ∈ fields.map Field.name ∧ d.name = name ∧
        d.relation = relation ∧ d.fields = fields ∧ d.relationships = rels ∧ d.primaryKey = key := by
  unfold of
  split
  · rename_i hnodup
    split
    · rename_i hkey
      constructor
      · rintro ⟨⟩
        exact ⟨hnodup, hkey, rfl, rfl, rfl, rfl, rfl⟩
      · obtain ⟨_, _, _, _, _, _, _⟩ := d
        rintro ⟨-, -, rfl, rfl, rfl, rfl, rfl⟩
        rfl
    · rename_i hkey
      exact iff_of_false nofun fun h => hkey h.2.1
  · rename_i hnodup
    exact iff_of_false nofun fun h => hnodup h.1

theorem mem_names_of_filter {p : Field → Bool} {k : Field} (h : fields.filter p = [k]) :
    k.name ∈ fields.map Field.name := by
  have hmem : k ∈ fields.filter p := h ▸ List.mem_singleton_self k
  exact List.mem_map_of_mem (List.mem_of_mem_filter hmem)

theorem names_keyedFields_nodup_iff (h : Keyed fields) :
    ((keyedFields fields).map Field.name).Nodup ↔ (fields.map Field.name).Nodup := by
  by_cases hnone : fields.filter (·.primaryKey) = []
  · rw [keyedFields_of_nil hnone, List.map_cons, List.nodup_cons]
    exact and_iff_right (h.implicit hnone)
  · rw [keyedFields_of_ne_nil hnone]

/-- What holds of the schema that a definition gives, sound or not. The declared fields keep their
order; only the implicit key comes before them, and only keys of schemas belonged to come behind.
One field is declared as the primary key. -/
structure Defined (name : String) (fields : List Field) (relation : Option String)
    (rels : List Relationship) (d : Descriptor) : Prop where
  name_eq : d.name = name
  relation_eq : d.relation = Relationship.orElse relation (Naming.defaultRelation name)
  relationships_eq : d.relationships = rels
  fields_eq : ∃ keys : List String, d.fields = keyedFields fields ++ keys.map (keyField · false) ∧
    keys.Sublist (ownerKeys rels)
  fieldNames_nodup : d.fieldNames.Nodup
  key : ∃ k, d.fields.filter (·.primaryKey) = [k] ∧ k.name = d.primaryKey
  relationshipNames_nodup : (rels.map Relationship.name).Nodup
  ownerKeys_subset : ownerKeys rels ⊆ d.fieldNames

/-- The primary key is stored, and no relationship has the name of a field. -/
structure Sound (d : Descriptor) : Prop where
  stored : ∀ f ∈ d.fields, f.primaryKey = true → f.virtual = false
  apart : ∀ r ∈ d.relationships, r.name ∉ d.fieldNames

variable {name : String} {relation : Option String} {d : Descriptor}

theorem define_eq_ok_iff :
    define name fields relation rels = .ok d ↔
      ∃ key all, Keyed fields ∧ withForeignKeys name (keyedFields fields) [] rels = .ok all ∧
        (∃ k, (keyedFields fields).filter (·.primaryKey) = [k] ∧ k.name = key) ∧
        of name (Relationship.orElse relation (Naming.defaultRelation name)) all rels key = .ok d := by
  simp only [define, bind_eq_ok_iff, Prod.exists, withKey_eq_ok_iff]
  constructor
  · rintro ⟨key, _, ⟨hkeyed, rfl, hkey⟩, all, hall, hof⟩
    exact ⟨key, all, hkeyed, hall, hkey, hof⟩
  · rintro ⟨key, all, hkeyed, hall, hkey, hof⟩
    exact ⟨key, _, ⟨hkeyed, rfl, hkey⟩, all, hall, hof⟩

theorem succeeds_define_iff :
    Succeeds (define name fields relation rels) ↔
      Keyed fields ∧ (fields.map Field.name).Nodup ∧ Free (keyedFields fields) rels := by
  constructor
  · rintro ⟨d, hd⟩
    obtain ⟨key, all, hkeyed, hall, -, hof⟩ := define_eq_ok_iff.mp hd
    have hnodup := (of_eq_ok_iff.mp hof).1
    rw [(withKeys_of_withForeignKeys hall).names_nodup_iff, names_keyedFields_nodup_iff hkeyed]
      at hnodup
    exact ⟨hkeyed, hnodup, (succeeds_withForeignKeys_iff.mp ⟨all, hall⟩).1⟩
  · rintro ⟨hkeyed, hnodup, hfree⟩
    obtain ⟨k, hk⟩ := exists_key hkeyed
    obtain ⟨all, hall⟩ : Succeeds (withForeignKeys name (keyedFields fields) [] rels) :=
      succeeds_withForeignKeys_iff.mpr ⟨hfree, nofun⟩
    have hwith := withKeys_of_withForeignKeys hall
    rw [← names_keyedFields_nodup_iff hkeyed, ← hwith.names_nodup_iff] at hnodup
    have hkey : k.name ∈ all.map Field.name :=
      hwith.mem_names_iff.mpr (.inl (mem_names_of_filter hk))
    exact ⟨⟨_, _, all, rels, k.name, hnodup, hkey⟩, define_eq_ok_iff.mpr
      ⟨k.name, all, hkeyed, hall, ⟨k, hk, rfl⟩,
        of_eq_ok_iff.mpr ⟨hnodup, hkey, rfl, rfl, rfl, rfl, rfl⟩⟩⟩

theorem defined_of_define (h : define name fields relation rels = .ok d) :
    Defined name fields relation rels d := by
  have hfree := (succeeds_define_iff.mp ⟨d, h⟩).2.2
  obtain ⟨key, all, -, hall, ⟨k, hk, hkey⟩, hof⟩ := define_eq_ok_iff.mp h
  have hwith := withKeys_of_withForeignKeys hall
  obtain ⟨hnodup, -, hname, hrelation, hfields, hrels, hprimary⟩ := of_eq_ok_iff.mp hof
  subst hfields
  exact
    { name_eq := hname
      relation_eq := hrelation
      relationships_eq := hrels
      fields_eq := hwith.added
      fieldNames_nodup := hnodup
      key := ⟨k, hwith.filter_primaryKey.trans hk, hkey.trans hprimary.symm⟩
      relationshipNames_nodup := hfree.nodup
      ownerKeys_subset := hwith.ownerKeys_subset }

/-- The key that is added is stored, so that only a declared one can be virtual. -/
theorem stored_iff (hwith : WithKeys (keyedFields fields) rels all) :
    (∀ f ∈ all, f.primaryKey = true → f.virtual = false) ↔
      ∀ f ∈ fields, f.primaryKey = true → f.virtual = false := by
  have hfilter : ∀ fs : List Field, (∀ f ∈ fs, f.primaryKey = true → f.virtual = false) ↔
      ∀ f ∈ fs.filter (·.primaryKey), f.virtual = false := by
    simp
  rw [hfilter, hwith.filter_primaryKey, ← hfilter]
  unfold keyedFields
  split
  · rfl
  · simp [keyField]

/-- A definition that is taken gives a sound schema as long as its key is not virtual and no
relationship has the name of a key that a schema belonged to needs. -/
theorem sound_iff_of_define (h : define name fields relation rels = .ok d) :
    Sound d ↔ (∀ f ∈ fields, f.primaryKey = true → f.virtual = false) ∧
      ∀ r ∈ rels, r.name ∉ ownerKeys rels := by
  have hfree := (succeeds_define_iff.mp ⟨d, h⟩).2.2
  obtain ⟨key, all, -, hall, -, hof⟩ := define_eq_ok_iff.mp h
  have hwith := withKeys_of_withForeignKeys hall
  obtain ⟨-, -, -, -, hfields, hrels, -⟩ := of_eq_ok_iff.mp hof
  have hname : ∀ r ∈ rels, r.name ∈ all.map Field.name ↔ r.name ∈ ownerKeys rels := by
    intro r hr
    rw [hwith.mem_names_iff]
    exact or_iff_right (hfree.notField r hr)
  rw [← stored_iff hwith]
  constructor
  · rintro ⟨hstored, hapart⟩
    rw [fieldNames, hfields, hrels] at hapart
    rw [hfields] at hstored
    exact ⟨hstored, fun r hr hmem => hapart r hr ((hname r hr).mpr hmem)⟩
  · rintro ⟨hstored, hapart⟩
    constructor
    · rwa [hfields]
    · rw [fieldNames, hfields, hrels]
      exact fun r hr hmem => hapart r hr ((hname r hr).mp hmem)

/-- A definition is taken exactly when at most one key is declared, the names of fields are
different, and the names of relationships are free where they are looked at. It then gives a schema
with one key, fields of different names in the declared order and all keys of the schemas belonged
to. The schema is sound unless the key is declared as virtual or a relationship has the name of a
key that itself or a later one adds. -/
theorem define_invariants (name : String) (fields : List Field) (relation : Option String)
    (rels : List Relationship) :
    (Succeeds (define name fields relation rels) ↔
      Keyed fields ∧ (fields.map Field.name).Nodup ∧ Free (keyedFields fields) rels) ∧
    ∀ d, define name fields relation rels = .ok d →
      Defined name fields relation rels d ∧
      (Sound d ↔ (∀ f ∈ fields, f.primaryKey = true → f.virtual = false) ∧
        ∀ r ∈ rels, r.name ∉ ownerKeys rels) :=
  ⟨succeeds_define_iff, fun _ hd => ⟨defined_of_define hd, sound_iff_of_define hd⟩⟩

/-- The posts of an author whose key is named like the relationship to the author. -/
theorem define_invariants_clash :
    let author := Relationship.belongsTo "author" "User" (some "author")
    ∃ d, define "Post" [] none [author] = .ok d ∧ Defined "Post" [] none [author] d ∧ ¬ Sound d := by
  intro author
  have hfree : Free (keyedFields []) [author] :=
    { nodup := by decide
      notField := by decide
      later := List.pairwise_singleton _ _ }
  have hkeyed : Keyed [] :=
    { single := by decide
      implicit := by decide }
  obtain ⟨htaken, hall⟩ := define_invariants "Post" [] none [author]
  obtain ⟨d, hd⟩ := htaken.mpr ⟨hkeyed, List.nodup_nil, hfree⟩
  obtain ⟨hdefined, hsound⟩ := hall d hd
  exact ⟨d, hd, hdefined, fun h => absurd (hsound.mp h).2 (by decide)⟩

end RecordMapper.Descriptor
