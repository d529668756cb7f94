import Mathlib.Data.List.Forall2
import RecordMapper.Proofs.Query.Sameness
import RecordMapper.Proofs.Sql.Binding

/-! # Terms without their values

A term is the tree that is left when the values of its literals are taken out, and these values in
order. With the values put back, the tree is the term again. -/

namespace RecordMapper

/-- Whether two parameters are of one kind and equal, if that can be said. -/
def Parameter.same? : Parameter → Parameter → Option Bool
  | .value v, .value w => Value.identical? v w
  | .item t, .item u => Term.same? t u
  | _, _ => some false

namespace Term

/-! ## Regular terms -/

/-- The node is one that the builders make, and no fragment and no list without values: at least two
conditions are joined, and rows are counted without asking for different ones. -/
def RegularAt : Term → Prop
  | .connected _ ts => 2 ≤ ts.length
  | .inList _ vs _ => vs ≠ []
  | .aggregate .count none distinct => distinct = false
  | .fragment .. => False
  | _ => True

/-- Each node of the term is regular. -/
def Regular (t : Term) : Prop := ∀ u ∈ t.nodes, u.RegularAt

/-- Joining regular terms makes a regular term. -/
theorem regular_connect {op : Connective} {ts : List Term} {t : Term} (h : connect op ts = .ok t)
    (hts : ∀ u ∈ ts, u.toTerm.Regular) : t.Regular :=
  forall_nodes_connect (fun _ _ hlength => hlength) h hts

/-- Counting makes a regular term of a regular one. -/
theorem regular_count {operand : Option Term} {distinct : Bool} {t : Term}
    (h : count operand distinct = .ok t) (ht : ∀ u ∈ operand, ∀ v, u.pathOrTerm = .ok v → v.Regular) :
    t.Regular := by
  unfold count at h
  split at h
  · split at h
    · cases h
    · obtain rfl := Except.ok.inj h
      simp [Regular, nodes, RegularAt]
  · rename_i u hu
    obtain ⟨o, ho, hpresent⟩ := Option.bind_eq_some_iff.mp hu
    obtain ⟨v, hv, heq⟩ := Outcome.bind_eq_ok_iff.mp h
    obtain rfl := Outcome.pure_eq_ok_iff.mp heq
    have huo : o = u := by
      unfold present? at hpresent
      split at hpresent
      · cases hpresent
      · exact Option.some.inj hpresent
    exact List.forall_mem_cons.mpr ⟨trivial, ht o ho v (huo ▸ hv)⟩

/-! ## Taking out and putting back -/

mutual

/-- The term with no value in the place of each literal. -/
def blank : Term → Term
  | .literal _ => .literal .null
  | .held _ => .literal .null
  | .binary op l r => .binary op (blank l) (blank r)
  | .connected op ts => .connected op (blanks ts)
  | .not t => .not (blank t)
  | .isNull t negated => .isNull (blank t) negated
  | .inList t vs negated => .inList (blank t) (blanks vs) negated
  | .aggregate f (some t) distinct => .aggregate f (some (blank t)) distinct
  | t => t

/-- The terms of a list with no value in the place of each literal. -/
def blanks : List Term → List Term
  | [] => []
  | t :: ts => blank t :: blanks ts

end

mutual

/-- The term with values in the places of its literals, from left to right, and the values that are
left over. -/
def fill : Term → List Parameter → Term × List Parameter
  | .literal v, [] => (.literal v, [])
  | .literal _, p :: ps => (p.toTerm, ps)
  | .binary op l r, ps =>
    let (l, ps) := fill l ps
    let (r, ps) := fill r ps
    (.binary op l r, ps)
  | .connected op ts, ps =>
    let (ts, ps) := fillAll ts ps
    (.connected op ts, ps)
  | .not t, ps =>
    let (t, ps) := fill t ps
    (.not t, ps)
  | .isNull t negated, ps =>
    let (t, ps) := fill t ps
    (.isNull t negated, ps)
  | .inList t vs negated, ps =>
    let (t, ps) := fill t ps
    let (vs, ps) := fillAll vs ps
    (.inList t vs negated, ps)
  | .aggregate f (some t) distinct, ps =>
    let (t, ps) := fill t ps
    (.aggregate f (some t) distinct, ps)
  | t, ps => (t, ps)

/-- The terms of a list with values in the places of their literals, and those left over. -/
def fillAll : List Term → List Parameter → List Term × List Parameter
  | [], ps => ([], ps)
  | t :: ts, ps =>
    let (t, ps) := fill t ps
    let (ts, ps) := fillAll ts ps
    (t :: ts, ps)

end

section

variable {d : Dialect} {s : Scope}

/-- Filled with its values, the blank term is the term. -/
def Refills (t : Term) : Prop :=
  t.Regular → ∀ more, fill t.blank (t.bound ++ more) = (t, more)

theorem fillAll_blanks {ts : List Term} {pss : List (List Piece)}
    (h : List.Forall₂ (fun t _ => t.Refills) ts pss) (hts : ∀ u ∈ allNodes ts, u.RegularAt)
    (more : List Parameter) : fillAll (blanks ts) (allBound ts ++ more) = (ts, more) := by
  induction h with
  | nil => rfl
  | cons ht _ ih =>
      obtain ⟨hhead, htail⟩ := List.forall_mem_append.mp hts
      simp [blanks, fillAll, allBound, ht hhead, ih htail]

theorem compositional_refills (d : Dialect) (s : Scope) :
    Compositional d s (fun t _ => t.Refills) where
  field _ _ _ _ := rfl
  bound p _ _ := by cases p <;> rfl
  binary _ hl hr h more := by
    obtain ⟨hwl, hwr⟩ := List.forall_mem_append.mp (List.forall_mem_cons.mp h).2
    simp [blank, fill, bound, hl hwl, hr hwr]
  connected _ hts h more := by
    simp [blank, fill, bound, fillAll_blanks hts (List.forall_mem_cons.mp h).2]
  not ht h more := by simp [blank, fill, bound, ht (List.forall_mem_cons.mp h).2]
  isNull _ ht h more := by simp [blank, fill, bound, ht (List.forall_mem_cons.mp h).2]
  inNone _ _ _ h := absurd rfl (h _ List.mem_cons_self)
  inList _ ht hvs h more := by
    obtain ⟨hwt, hwvs⟩ := List.forall_mem_append.mp (List.forall_mem_cons.mp h).2
    simp [blank, fill, bound, ht hwt, fillAll_blanks hvs hwvs]
  rows _ _ _ := rfl
  aggregate _ _ ht h more := by simp [blank, fill, bound, ht (List.forall_mem_cons.mp h).2]
  fragment _ _ _ h := (h _ List.mem_cons_self).elim

/-- Two terms of one blank form that bind the same values are the same. -/
theorem eq_of_blank_eq {inAggregate inAggregate' : Bool} {s' : Scope} {t u : Term}
    {ps qs : List Piece} (ht : t.pieces d s inAggregate = .ok ps)
    (hu : u.pieces d s' inAggregate' = .ok qs) (hrt : t.Regular) (hru : u.Regular)
    (hblank : t.blank = u.blank) (hbound : t.bound = u.bound) : t = u := by
  have hfillt := (compositional_refills d s).of_pieces ht hrt []
  have hfillu := (compositional_refills d s').of_pieces hu hru []
  rw [hblank, hbound, hfillu] at hfillt
  exact (congrArg Prod.fst hfillt).symm

/-- Parameters of one kind and value. -/
def SameAll (ps qs : List Parameter) : Prop :=
  List.Forall₂ (fun p q => p.same? q = some true) ps qs

theorem SameAll.append {ps ps' qs : List Parameter} (h : SameAll (ps ++ ps') qs) :
    ∃ qs₁ qs₂, qs = qs₁ ++ qs₂ ∧ SameAll ps qs₁ ∧ SameAll ps' qs₂ := by
  induction ps generalizing qs with
  | nil => exact ⟨[], qs, rfl, .nil, h⟩
  | cons p ps ih =>
      cases h with
      | cons hp hps =>
          obtain ⟨qs₁, qs₂, rfl, hps, hps'⟩ := ih hps
          exact ⟨_ :: qs₁, qs₂, rfl, .cons hp hps, hps'⟩

/-- Filled with values that are the same as its own, the blank term is the same as the term. -/
def RefillsSame (t : Term) : Prop :=
  t.Regular → ∀ qs more, SameAll t.bound qs →
    ∃ u, fill t.blank (qs ++ more) = (u, more) ∧ same? t u = some true

theorem fillAll_blanks_same {ts : List Term} {pss : List (List Piece)}
    (h : List.Forall₂ (fun t _ => t.RefillsSame) ts pss) (hts : ∀ u ∈ allNodes ts, u.RegularAt)
    {qs : List Parameter} (more : List Parameter) (hqs : SameAll (allBound ts) qs) :
    ∃ us, fillAll (blanks ts) (qs ++ more) = (us, more) ∧ sameLists? ts us = some true := by
  induction h generalizing qs with
  | nil =>
      cases hqs
      exact ⟨[], rfl, rfl⟩
  | cons ht _ ih =>
      obtain ⟨hhead, htail⟩ := List.forall_mem_append.mp hts
      obtain ⟨qs₁, qs₂, rfl, hqs₁, hqs₂⟩ := hqs.append
      obtain ⟨u, hfill, hsame⟩ := ht hhead qs₁ (qs₂ ++ more) hqs₁
      obtain ⟨us, hfills, hsames⟩ := ih htail hqs₂
      exact ⟨u :: us, by simp [blanks, fillAll, hfill, hfills],
        by simp [sameLists?, both?, hsame, hsames]⟩

theorem compositional_refillsSame (d : Dialect) (s : Scope) :
    Compositional d s (fun t _ => t.RefillsSame) where
  field b n _ qs more hqs := by
    cases hqs
    exact ⟨.field b n, rfl, by simp [same?]⟩
  bound p _ qs more hqs := by
    cases p with
    | value v =>
        cases hqs with
        | @cons _ q _ _ hq hnil =>
            cases hnil
            cases q with
            | value w => exact ⟨.literal w, rfl, hq⟩
            | item u => cases hq
    | item t =>
        cases hqs with
        | @cons _ q _ _ hq hnil =>
            cases hnil
            cases q with
            | value w => cases hq
            | item u => exact ⟨.held u, rfl, hq⟩
  binary {op _ _ _ _} _ hl hr h qs more hqs := by
    obtain ⟨hwl, hwr⟩ := List.forall_mem_append.mp (List.forall_mem_cons.mp h).2
    obtain ⟨qs₁, qs₂, rfl, hqs₁, hqs₂⟩ := hqs.append
    obtain ⟨l, hfilll, hsamel⟩ := hl hwl qs₁ (qs₂ ++ more) hqs₁
    obtain ⟨r, hfillr, hsamer⟩ := hr hwr qs₂ more hqs₂
    exact ⟨.binary op l r, by simp [blank, fill, hfilll, hfillr],
      by simp [same?, both?, hsamel, hsamer]⟩
  connected {op _ _ _} _ hts h qs more hqs := by
    obtain ⟨us, hfills, hsames⟩ :=
      fillAll_blanks_same hts (List.forall_mem_cons.mp h).2 more hqs
    exact ⟨.connected op us, by simp [blank, fill, hfills], by simp [same?, hsames]⟩
  not ht h qs more hqs := by
    obtain ⟨u, hfill, hsame⟩ := ht (List.forall_mem_cons.mp h).2 qs more hqs
    exact ⟨.not u, by simp [blank, fill, hfill], hsame⟩
  isNull negated ht h qs more hqs := by
    obtain ⟨u, hfill, hsame⟩ := ht (List.forall_mem_cons.mp h).2 qs more hqs
    exact ⟨.isNull u negated, by simp [blank, fill, hfill], by simp [same?, both?, hsame]⟩
  inNone _ _ _ h := absurd rfl (h _ List.mem_cons_self)
  inList negated ht hvs h qs more hqs := by
    obtain ⟨hwt, hwvs⟩ := List.forall_mem_append.mp (List.forall_mem_cons.mp h).2
    obtain ⟨qs₁, qs₂, rfl, hqs₁, hqs₂⟩ := hqs.append
    obtain ⟨u, hfill, hsame⟩ := ht hwt qs₁ (qs₂ ++ more) hqs₁
    obtain ⟨us, hfills, hsames⟩ := fillAll_blanks_same hvs hwvs more hqs₂
    exact ⟨.inList u us negated, by simp [blank, fill, hfill, hfills],
      by simp [same?, both?, hsame, hsames]⟩
  rows distinct _ qs more hqs := by
    cases hqs
    exact ⟨.aggregate .count none distinct, rfl, by simp [same?]⟩
  aggregate {_ f _ _} distinct _ ht h qs more hqs := by
    obtain ⟨u, hfill, hsame⟩ := ht (List.forall_mem_cons.mp h).2 qs more hqs
    exact ⟨.aggregate f (some u) distinct, by simp [blank, fill, hfill],
      by simp [same?, both?, hsame]⟩
  fragment _ _ _ h := (h _ List.mem_cons_self).elim

/-- Two terms of one blank form that bind values that are the same are the same to a key. -/
theorem same?_of_blank_eq {inAggregate inAggregate' : Bool} {s' : Scope} {t u : Term}
    {ps qs : List Piece} (ht : t.pieces d s inAggregate = .ok ps)
    (hu : u.pieces d s' inAggregate' = .ok qs) (hrt : t.Regular) (hru : u.Regular)
    (hblank : t.blank = u.blank) (hbound : SameAll t.bound u.bound) : same? t u = some true := by
  obtain ⟨v, hfillt, hsame⟩ := (compositional_refillsSame d s).of_pieces ht hrt u.bound [] hbound
  have hfillu := (compositional_refills d s').of_pieces hu hru []
  rw [hblank, hfillu] at hfillt
  obtain rfl : u = v := congrArg Prod.fst hfillt
  exact hsame

end

end Term

end RecordMapper
