import RecordMapper.Entity
import RecordMapper.Proofs.Outcome
import RecordMapper.Proofs.Row

/-! # Values that are given to fields

What an entity has in each field after values are given to some fields. A value travels under the
name of its field, next to the other parts of a request: a name that one of these parts has is
taken, and no value can be given under it. -/

namespace RecordMapper

open Outcome

/-! ## Assignments -/

/-- Values for fields of a schema, each field given one at most. -/
structure Descriptor.Assigns (d : Descriptor) (values : Row Value) : Prop where
  fields : ∀ name ∈ values.keys, d.hasField name = true
  nodup : values.keys.Nodup

namespace Descriptor.Assigns

variable {d : Descriptor} {values changes : Row Value}

theorem overlay (h : d.Assigns values) (hchanges : d.Assigns changes) :
    d.Assigns (values.overlay changes) where
  fields name hname :=
    (Row.mem_keys_overlay_iff.mp hname).elim (h.fields name) (hchanges.fields name)
  nodup := Row.nodup_keys_overlay h.nodup changes

theorem of_cons {name : String} {v : Value} (h : d.Assigns ((name, v) :: values)) :
    d.hasField name = true ∧ values.find? name = none ∧ d.Assigns values := by
  obtain ⟨hname, hnodup⟩ := List.nodup_cons.mp h.nodup
  have hfields := List.forall_mem_cons.mp h.fields
  exact ⟨hfields.1, Row.find?_eq_none_iff.mpr hname, hfields.2, hnodup⟩

theorem erase (h : d.Assigns values) (name : String) : d.Assigns (values.erase name) where
  fields other hother := h.fields other ((Row.keys_erase_sublist values name).subset hother)
  nodup := h.nodup.sublist (Row.keys_erase_sublist values name)

end Descriptor.Assigns

namespace Entity

variable {d : Descriptor} {e : Entity} {f : Field} {values changes : Row Value}

/-- The values that were given to an entity are an assignment to fields of its schema. -/
def Proper (e : Entity) : Prop := e.schema.Assigns e.given

theorem of_eq_ok (h : d.Assigns values) (origin : Origin) :
    of d values origin = .ok ⟨d, values, origin⟩ := by
  have hknown : firstUnknown? d values = none := by
    rw [firstUnknown?, List.find?_eq_none]
    intro name hname
    simp [h.fields name hname]
  rw [of, hknown]

/-- A field has the value that was given to it, and otherwise its default. -/
theorem find?_of_proper (h : e.Proper) (hf : f ∈ e.schema.fields) :
    e.find? f.name = some ((e.given.find? f.name).getD f.default) := by
  have hdefaults : (e.schema.defaults.map Prod.fst).Nodup := by
    rw [Descriptor.defaults, List.map_map]
    exact e.schema.names_nodup
  have hdefault : e.schema.defaults.find? f.name = some f.default :=
    Row.find?_of_mem hdefaults (List.mem_map_of_mem hf)
  rw [find?, values, Row.find?_overlay h.nodup, hdefault]
  cases e.given.find? f.name <;> rfl

/-- The primary key is a field, so every entity has a value for it. -/
theorem find?_primaryKey (h : e.Proper) : e.find? e.schema.primaryKey = some e.key := by
  obtain ⟨f, hf, hname⟩ := List.mem_map.mp e.schema.primaryKey_mem
  rw [key, getD, ← hname, find?_of_proper h hf, Option.getD_some]

theorem proper_overlay (h : e.Proper) (hchanges : e.schema.Assigns changes) (origin : Origin) :
    (Entity.mk e.schema (e.given.overlay changes) origin).Proper := h.overlay hchanges

/-- A field has the value that a change gives it, and otherwise the one that it had. -/
theorem find?_overlaid (h : e.Proper) (hchanges : e.schema.Assigns changes) (origin : Origin)
    (hf : f ∈ e.schema.fields) :
    (Entity.mk e.schema (e.given.overlay changes) origin).find? f.name =
      (changes.find? f.name).or (e.find? f.name) := by
  have hproper := proper_overlay h hchanges origin
  rw [find?_of_proper hproper hf, find?_of_proper h hf, Row.find?_overlay hchanges.nodup]
  cases changes.find? f.name <;> rfl

/-! ## Making and changing entities -/

theorem firstReserved?_append (names others : List String) (values : Row Value) :
    firstReserved? (names ++ others) values =
      (firstReserved? names values).or (firstReserved? others values) :=
  List.find?_append

/-- What a request for a new entity gives: an error for a taken name, and otherwise an entity with
the given values and the defaults of the other fields. -/
theorem build_eq (h : d.Assigns values) :
    build d values =
      match firstReserved? ["cls", "descriptor"] values with
      | some name => .error (.reserved name)
      | none => .ok ⟨d, values, .built⟩ := by
  rw [build, of_eq_ok h]
  rfl

theorem create_eq {r : Registry} (hd : r.get d.name = .ok d) (h : d.Assigns values) :
    create r d.name values =
      match firstReserved? ["self", "name", "cls", "descriptor"] values with
      | some name => .error (.reserved name)
      | none => .ok ⟨d, values, .built⟩ := by
  have hsplit := firstReserved?_append ["self", "name"] ["cls", "descriptor"] values
  rw [List.cons_append, List.cons_append, List.nil_append] at hsplit
  rw [hsplit, create]
  cases firstReserved? ["self", "name"] values with
  | some name => rfl
  | none =>
      rw [hd]
      exact build_eq h

/-- What changes of an entity give: one name is taken for the entity, and another one goes to its
origin. -/
theorem apply_eq (h : e.Proper) (hchanges : e.schema.Assigns changes) :
    e.apply changes =
      match firstReserved? ["self"] changes with
      | some name => .error (.reserved name)
      | none =>
          .ok ⟨e.schema, e.given.overlay (changes.erase originName), e.changedOrigin changes⟩ := by
  rw [apply, of_eq_ok (h.overlay (hchanges.erase originName))]
  rfl

theorem replace_eq (h : e.Proper) (hchanges : e.schema.Assigns changes) (origin : Origin) :
    e.replace changes (some origin) =
      match firstReserved? ["self", originName] changes with
      | some name => .error (.reserved name)
      | none => .ok ⟨e.schema, e.given.overlay changes, origin⟩ := by
  rw [replace, of_eq_ok (h.overlay hchanges)]
  rfl

/-! ## Rows that are read back -/

theorem keys_loadFields_sublist {row : Row Value} {fields : List Field}
    (h : loadFields row fields = .ok values) : values.keys.Sublist (fields.map Field.name) := by
  induction fields generalizing values with
  | nil =>
      obtain rfl := Except.ok.inj h
      exact .slnil
  | cons f fields ih =>
      rw [loadFields] at h
      split at h
      · exact (ih h).cons f.name
      · simp only [bind_eq_ok_iff, pure_eq_ok_iff] at h
        obtain ⟨v, -, rest, hrest, rfl⟩ := h
        exact (ih hrest).cons_cons f.name

/-- A field has the value that its column is read as, if there is such a column. -/
theorem find?_loadFields {row : Row Value} {fields : List Field}
    (hnames : (fields.map Field.name).Nodup) (h : loadFields row fields = .ok values)
    (hf : f ∈ fields) :
    match row.find? f.name with
    | some raw => ∃ v, f.kind.load raw = .ok v ∧ values.find? f.name = some v
    | none => values.find? f.name = none := by
  induction fields generalizing values with
  | nil => cases hf
  | cons g fields ih =>
      obtain ⟨hg, hnames⟩ := List.nodup_cons.mp hnames
      rw [loadFields] at h
      split at h
      · rename_i hnone
        rcases List.mem_cons.mp hf with rfl | hf
        · rw [hnone]
          exact Row.find?_eq_none_iff.mpr fun hmem => hg ((keys_loadFields_sublist h).subset hmem)
        · exact ih hnames h hf
      · rename_i raw hraw
        simp only [bind_eq_ok_iff, pure_eq_ok_iff] at h
        obtain ⟨v, hv, rest, hrest, rfl⟩ := h
        rw [Row.find?]
        rcases List.mem_cons.mp hf with rfl | hf
        · rw [if_pos rfl, hraw]
          exact ⟨v, hv, rfl⟩
        · have hne : g.name ≠ f.name := fun heq => hg (heq ▸ List.mem_map_of_mem hf)
          rw [if_neg hne]
          exact ih hnames hrest hf

theorem assigns_of_loadFields {row : Row Value} {fields : List Field}
    (hfields : fields.Sublist d.fields) (h : loadFields row fields = .ok values) :
    d.Assigns values where
  fields name hname := by
    obtain ⟨f, hf, rfl⟩ := List.mem_map.mp ((keys_loadFields_sublist h).subset hname)
    exact List.any_eq_true.mpr ⟨f, hfields.subset hf, beq_self_eq_true f.name⟩
  nodup := (d.names_nodup.sublist (hfields.map _)).sublist (keys_loadFields_sublist h)

theorem assigns_loadFields {row : Row Value} (h : loadFields row d.stored = .ok values) :
    d.Assigns values :=
  assigns_of_loadFields List.filter_sublist h

end Entity

end RecordMapper
