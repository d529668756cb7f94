import RecordMapper.Proofs.Outcome
import RecordMapper.Proofs.Row
import RecordMapper.Proofs.Schema.Fields
import RecordMapper.Schema.Resolve

/-! # Growing registries

Schemas are entered behind the earlier ones in both tables of a registry and never taken away, so
what was looked up once is found again. Of several schemas that are registered one after the other,
those before the first one that clashes stay. -/

namespace RecordMapper.Registry

open Outcome

variable {r r' : Registry} {d : Descriptor} {ds : List Descriptor}

/-! ## Entering schemas -/

/-- A registry with more schemas in both of its tables. -/
def enter (r : Registry) (ds : List Descriptor) : Registry where
  byName := r.byName ++ ds.map fun d => (d.name, d)
  byRelation := r.byRelation ++ ds.map fun d => (d.relation, d.name)

@[simp] theorem enter_nil (r : Registry) : r.enter [] = r := by simp [enter]

theorem enter_cons (r : Registry) (d : Descriptor) (ds : List Descriptor) :
    r.enter (d :: ds) = (r.enter [d]).enter ds := by
  simp [enter]

@[simp] theorem schemas_enter (r : Registry) (ds : List Descriptor) :
    (r.enter ds).schemas = r.schemas ++ ds := by
  simp [enter, schemas, Function.comp_def]

@[simp] theorem names_enter (r : Registry) (ds : List Descriptor) :
    (r.enter ds).names = r.names ++ ds.map Descriptor.name := by
  simp [enter, names, Row.keys, Function.comp_def]

@[simp] theorem relations_enter (r : Registry) (ds : List Descriptor) :
    (r.enter ds).relations = r.relations ++ ds.map Descriptor.relation := by
  simp [enter, relations, Row.keys, Function.comp_def]

/-! ## One schema -/

/-- Neither the name nor the relation of a schema is taken. -/
structure Free (r : Registry) (d : Descriptor) : Prop where
  name : d.name ∉ r.names
  relation : d.relation ∉ r.relations

/-- Why a schema cannot be added: its name is taken, or else its relation is mapped to another
schema. -/
inductive Clashes (r : Registry) (d : Descriptor) : SchemaError → Prop where
  | name : d.name ∈ r.names → Clashes r d (.schemaTaken d.name)
  | relation {owner : String} : d.name ∉ r.names → r.byRelation.find? d.relation = some owner →
      Clashes r d (.relationTaken d.relation owner)

/-- A schema is entered, or it clashes. -/
theorem register_cases (r : Registry) (d : Descriptor) :
    (r.Free d ∧ r.register d = .ok (r.enter [d])) ∨
      ∃ e, r.register d = .error e ∧ r.Clashes d e := by
  cases hname : r.find? d.name with
  | some s =>
      have htaken : d.name ∈ r.names := Row.mem_keys_iff.mpr (Option.isSome_of_eq_some hname)
      exact .inr ⟨_, by simp only [register, hname], .name htaken⟩
  | none =>
      have hfree : d.name ∉ r.names := Row.find?_eq_none_iff.mp hname
      cases hrelation : r.byRelation.find? d.relation with
      | some owner =>
          exact .inr ⟨_, by simp only [register, hname, hrelation], .relation hfree hrelation⟩
      | none =>
          have hunmapped : d.relation ∉ r.relations := Row.find?_eq_none_iff.mp hrelation
          refine .inl ⟨⟨hfree, hunmapped⟩, ?_⟩
          simp only [register, hname, hrelation]
          rw [Row.insert_of_notMem hfree, Row.insert_of_notMem hunmapped]
          rfl

theorem register_eq_ok (h : r.register d = .ok r') : r.Free d ∧ r' = r.enter [d] := by
  rcases r.register_cases d with ⟨hfree, hd⟩ | ⟨e, he, -⟩
  · exact ⟨hfree, Except.ok.inj (h.symm.trans hd)⟩
  · cases he.symm.trans h

theorem clashes_of_register {e : SchemaError} (h : r.register d = .error e) : r.Clashes d e := by
  rcases r.register_cases d with ⟨-, hd⟩ | ⟨f, hf, hclash⟩
  · cases hd.symm.trans h
  · obtain rfl := Except.error.inj (hf.symm.trans h)
    exact hclash

/-! ## Several schemas -/

/-- Schemas can be entered one after the other. -/
def Fits (r : Registry) : List Descriptor → Prop
  | [] => True
  | d :: ds => r.Free d ∧ (r.enter [d]).Fits ds

/-- Schemas that are registered one after the other are all entered, or the first of them that
clashes with what is there by then ends it. -/
inductive Registers (r : Registry) : List Descriptor → Registry × Except SchemaError Unit → Prop where
  | all {ds : List Descriptor} : r.Fits ds → Registers r ds (r.enter ds, .ok ())
  | upTo {front back : List Descriptor} {d : Descriptor} {e : SchemaError} : r.Fits front →
      (r.enter front).Clashes d e → Registers r (front ++ d :: back) (r.enter front, .error e)

theorem Registers.cons {x : Registry × Except SchemaError Unit} (hd : r.Free d)
    (h : (r.enter [d]).Registers ds x) : r.Registers (d :: ds) x := by
  cases h with
  | all hfits =>
      rw [← enter_cons]
      exact .all ⟨hd, hfits⟩
  | @upTo front back s _ hfits hclash =>
      rw [← enter_cons] at hclash ⊢
      rw [← List.cons_append]
      exact .upTo ⟨hd, hfits⟩ hclash

theorem registers_registerAll (r : Registry) (ds : List Descriptor) :
    r.Registers ds (r.registerAll ds) := by
  induction ds generalizing r with
  | nil =>
      have hnone : r.Registers [] (r.enter [], .ok ()) := .all trivial
      rwa [enter_nil] at hnone
  | cons d ds ih =>
      rw [registerAll]
      split
      · rename_i r' hd
        obtain ⟨hfree, rfl⟩ := register_eq_ok hd
        exact .cons hfree (ih (r.enter [d]))
      · rename_i e hd
        have hclash : (r.enter []).Clashes d e := by
          rw [enter_nil]
          exact clashes_of_register hd
        have hfirst : r.Registers ([] ++ d :: ds) (r.enter [], .error e) := .upTo trivial hclash
        rwa [enter_nil] at hfirst

/-! ## Operations -/

/-- What is done to a registry: a schema is registered, or those of a text are added. -/
inductive Operation where
  | register (d : Descriptor)
  | extend (text : String)

/-- The registry after an operation, whether that succeeds or fails. -/
def after (r : Registry) : Operation → Registry
  | .register d =>
    match r.register d with
    | .ok r' => r'
    | .error _ => r
  | .extend text => (r.extend text).1

/-- The registry after operations in order. -/
def afterAll (r : Registry) (os : List Operation) : Registry := os.foldl after r

theorem afterAll_append (r : Registry) (os ps : List Operation) :
    r.afterAll (os ++ ps) = (r.afterAll os).afterAll ps := List.foldl_append

theorem entered_registerAll (r : Registry) (ds : List Descriptor) :
    ∃ front, r.Fits front ∧ (r.registerAll ds).1 = r.enter front := by
  have h := r.registers_registerAll ds
  generalize r.registerAll ds = x at h ⊢
  cases h with
  | all hfits => exact ⟨ds, hfits, rfl⟩
  | upTo hfits => exact ⟨_, hfits, rfl⟩

theorem entered_extend (r : Registry) (text : String) :
    ∃ ds, r.Fits ds ∧ (r.extend text).1 = r.enter ds := by
  have hnone : ∃ ds, r.Fits ds ∧ r = r.enter ds := ⟨[], trivial, r.enter_nil.symm⟩
  unfold extend
  split
  · exact hnone
  · split
    · exact hnone
    · rename_i schemas _
      have h := r.entered_registerAll schemas
      split <;> simp_all

/-- An operation enters schemas for which there is room, and does nothing else. -/
theorem entered_after (r : Registry) (o : Operation) : ∃ ds, r.Fits ds ∧ r.after o = r.enter ds := by
  cases o with
  | register d =>
      unfold after
      dsimp only
      split
      · rename_i r' h
        obtain ⟨hfree, rfl⟩ := register_eq_ok h
        exact ⟨[d], ⟨hfree, trivial⟩, rfl⟩
      · exact ⟨[], trivial, r.enter_nil.symm⟩
  | extend text => exact r.entered_extend text

/-- A registry has all entries of another one in their places, and maybe others behind them. -/
structure GrowsTo (r r' : Registry) : Prop where
  byName : r.byName <+: r'.byName
  byRelation : r.byRelation <+: r'.byRelation

theorem GrowsTo.refl (r : Registry) : r.GrowsTo r := ⟨List.prefix_refl _, List.prefix_refl _⟩

theorem GrowsTo.trans {r'' : Registry} (h : r.GrowsTo r') (h' : r'.GrowsTo r'') : r.GrowsTo r'' :=
  ⟨h.byName.trans h'.byName, h.byRelation.trans h'.byRelation⟩

theorem growsTo_enter (r : Registry) (ds : List Descriptor) : r.GrowsTo (r.enter ds) :=
  ⟨List.prefix_append _ _, List.prefix_append _ _⟩

/-- An operation only enters schemas behind those that are there. -/
theorem growsTo_after (r : Registry) (o : Operation) : r.GrowsTo (r.after o) := by
  obtain ⟨ds, -, hds⟩ := r.entered_after o
  rw [hds]
  exact r.growsTo_enter ds

theorem growsTo_afterAll (r : Registry) (os : List Operation) : r.GrowsTo (r.afterAll os) := by
  induction os generalizing r with
  | nil => exact .refl r
  | cons o os ih => exact (r.growsTo_after o).trans (ih (r.after o))

/-! ## Looking up in a grown registry -/

namespace GrowsTo

variable {name : String} {owner : Descriptor} {j : Joint}

theorem find? (h : r.GrowsTo r') (hname : r.find? name = some d) : r'.find? name = some d := by
  obtain ⟨rest, hrest⟩ := h.byName
  have hfound : r.byName.find? name = some d := hname
  rw [Registry.find?, ← hrest, Row.find?_append, hfound, Option.some_or]

/-- A relationship that leads somewhere leads there for good. -/
theorem joint (h : r.GrowsTo r') (hjoint : r.joint owner name = .ok j) :
    r'.joint owner name = .ok j := by
  unfold Registry.joint at hjoint ⊢
  split at hjoint
  · cases hjoint
  · rename_i rel hrel
    obtain ⟨related, hrelated, hkeys⟩ := bind_eq_ok_iff.mp hjoint
    have hfound : r'.get rel.related = .ok related := by
      unfold get at hrelated ⊢
      split at hrelated
      · rename_i s hs
        rw [h.find? hs]
        exact hrelated
      · cases hrelated
    exact bind_eq_ok_iff.mpr ⟨related, hfound, hkeys⟩

end GrowsTo

/-- A schema that was entered is found by its name. -/
theorem find?_enter (h : r.Fits ds) (hd : d ∈ ds) : (r.enter ds).find? d.name = some d := by
  induction ds generalizing r with
  | nil => cases hd
  | cons s ds ih =>
      obtain ⟨hs, hds⟩ := h
      rw [enter_cons]
      rcases List.mem_cons.mp hd with rfl | hd
      · have hnone : r.byName.find? d.name = none := Row.find?_eq_none_iff.mpr hs.name
        have hfound : (r.enter [d]).find? d.name = some d := by
          rw [find?, enter, Row.find?_append, hnone]
          exact if_pos rfl
        exact ((r.enter [d]).growsTo_enter ds).find? hfound
      · exact ih hds hd

end RecordMapper.Registry
