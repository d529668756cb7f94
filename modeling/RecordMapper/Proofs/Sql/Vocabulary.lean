import RecordMapper.Proofs.Outcome
import RecordMapper.Proofs.Query.Nodes
import RecordMapper.Proofs.Sql.Layout
import RecordMapper.Sql.Write

/-! # The vocabulary of statements

A statement is made up of the words of a fixed list, of names, of what is bound and of the texts of
the fragments in its query. Nothing else gets into it. -/

namespace RecordMapper

namespace Piece

/-- The words of statements. -/
def vocabulary : List String :=
  ["(", ")", "))", ", ", ".", ".*", " ", "(LOWER(", ") LIKE LOWER(", " = ", " <> ", " < ", " <= ",
   " > ", " >= ", " LIKE ", " ILIKE ", " + ", " - ", " * ", " / ", " AND ", " OR ", "(NOT ",
   " IS NULL)", " IS NOT NULL)", " IN (", " NOT IN (", "(1 = 1)", "(1 = 0)", "COUNT(*)", "COUNT",
   "SUM", "AVG", "MIN", "MAX", "(DISTINCT ", "SELECT ", "SELECT DISTINCT ", " FROM ", " AS ",
   " INNER JOIN ", " LEFT JOIN ", " ON ", " WHERE ", " GROUP BY ", " HAVING ", " ORDER BY ",
   " ASC", " DESC", " LIMIT ", " OFFSET ", "DELETE FROM ", "UPDATE ", " SET ", " RETURNING *"]

/-- A piece of the vocabulary, or of a fragment that `written` holds of. -/
inductive IsOf (written : String → Prop) : Piece → Prop where
  | word {s : String} : s ∈ vocabulary → IsOf written (.word s)
  | raw {text : String} {parts : List Fragment.Part} {cs : List Char} : written text →
      Fragment.split text = .ok parts → .text cs ∈ parts → IsOf written (.raw cs)
  | name (s : String) : IsOf written (.name s)
  | slot (p : Parameter) : IsOf written (.slot p)
  | unplaced (p : Parameter) : IsOf written (.unplaced p)

variable {written : String → Prop}

@[simp] theorem isOf_word_iff {s : String} : (word s).IsOf written ↔ s ∈ vocabulary := by
  refine ⟨?_, .word⟩
  rintro ⟨h⟩
  exact h

attribute [simp] IsOf.name IsOf.slot IsOf.unplaced

theorem isOf_withoutPlaces (ps : List Piece) : ∀ p ∈ withoutPlaces ps, p.IsOf written := by
  induction ps with
  | nil => simp [withoutPlaces]
  | cons p ps ih => cases p <;> simpa [withoutPlaces] using ih

theorem isOf_separated {separator : String} (hs : separator ∈ vocabulary) {pss : List (List Piece)}
    (h : ∀ ps ∈ pss, ∀ p ∈ ps, p.IsOf written) :
    ∀ p ∈ separated separator pss, p.IsOf written := by
  fun_induction separated separator pss with
  | case1 => simp
  | case2 ps => simpa using h
  | case3 ps rest hne ih =>
      simp only [List.mem_append, List.mem_cons]
      rintro p (hp | rfl | hp)
      · exact h ps (by simp) p hp
      · exact .word hs
      · exact ih (fun qs hqs => h qs (by simp [hqs])) p hp

theorem isOf_fillSlots {text : String} (ht : written text) {all parts : List Fragment.Part}
    (hall : Fragment.split text = .ok all) (hsub : parts ⊆ all) {pss : List (List Piece)}
    (h : ∀ ps ∈ pss, ∀ p ∈ ps, p.IsOf written) :
    ∀ p ∈ Term.fillSlots parts pss, p.IsOf written := by
  fun_induction Term.fillSlots parts pss with
  | case1 => simp
  | case2 cs parts pss ih =>
      simp only [List.mem_cons]
      rintro p (rfl | hp)
      · exact .raw ht hall (hsub (by simp))
      · exact ih (List.subset_of_cons_subset hsub) h p hp
  | case3 parts ih => exact ih (List.subset_of_cons_subset hsub) h
  | case4 parts ps pss ih =>
      simp only [List.mem_append]
      rintro p (hp | hp)
      · exact h ps (by simp) p hp
      · exact ih (List.subset_of_cons_subset hsub) (fun qs hqs => h qs (by simp [hqs])) p hp

theorem operatorWords_mem {d : Dialect} {op : Operator} (h : ∀ name, op ≠ .other name) :
    (Term.operatorWords d op).1 ∈ vocabulary ∧ (Term.operatorWords d op).2.1 ∈ vocabulary ∧
      (Term.operatorWords d op).2.2 ∈ vocabulary := by
  cases op with
  | other name => exact absurd rfl (h name)
  | _ =>
      unfold Term.operatorWords
      cases d.hasIlike <;> decide +kernel

theorem connectiveWord_mem {op : Connective} {w : String} (h : Term.connectiveWord op = .ok w) :
    w ∈ vocabulary := by
  cases op <;> simp only [Term.connectiveWord, Except.ok.injEq, reduceCtorEq] at h <;>
    simp [vocabulary, ← h]

end Piece

namespace Term

open Piece (IsOf vocabulary operatorWords_mem isOf_separated isOf_withoutPlaces isOf_fillSlots)

variable {written : String → Prop} {d : Dialect} {s : Scope}

/-! ## Fragments among terms -/

/-- The texts of the fragments among the terms are such that `written` holds of them. -/
def FragmentsHold (written : String → Prop) (ts : List Term) : Prop :=
  ∀ raw params, .fragment raw params ∈ ts → written raw

theorem FragmentsHold.tail {t : Term} {ts : List Term} (h : FragmentsHold written (t :: ts)) :
    FragmentsHold written ts :=
  fun raw params hmem => h raw params (List.mem_cons_of_mem t hmem)

theorem fragmentsHold_append {ts us : List Term} :
    FragmentsHold written (ts ++ us) ↔ FragmentsHold written ts ∧ FragmentsHold written us := by
  simp only [FragmentsHold, List.mem_append, or_imp, forall_and]

theorem FragmentsHold.paramNodes_cons {t : Term} {ts : List Term}
    (h : FragmentsHold written (paramNodes (t :: ts))) :
    FragmentsHold written t.inPlace.nodes ∧ FragmentsHold written (paramNodes ts) := by
  rw [paramNodes, fragmentsHold_append] at h
  refine ⟨?_, h.2⟩
  cases hp : Parameter.ofTerm? t with
  | some p =>
      rw [inPlace_of_some hp]
      cases p <;> simp [Parameter.toTerm, FragmentsHold, nodes]
  | none =>
      rw [inPlace_of_none hp]
      simpa [hp] using h.1

/-! ## Pieces of terms -/

/-- Whether pieces are of the vocabulary when the fragments in their term are. -/
def Conforms (written : String → Prop) (ts : List Term) (ps : List Piece) : Prop :=
  FragmentsHold written ts → ∀ p ∈ ps, p.IsOf written

theorem conforms_allNodes_of_forall₂ {ts : List Term} {pss : List (List Piece)}
    (h : List.Forall₂ (fun t ps => Conforms written (nodes t) ps) ts pss)
    (hw : FragmentsHold written (allNodes ts)) : ∀ ps ∈ pss, ∀ p ∈ ps, p.IsOf written := by
  induction h with
  | nil => simp
  | cons ht _ ih =>
      obtain ⟨hwt, hwts⟩ := fragmentsHold_append.mp hw
      exact List.forall_mem_cons.mpr ⟨ht hwt, ih hwts⟩

theorem conforms_paramNodes_of_forall₂ {ts : List Term} {pss : List (List Piece)}
    (h : List.Forall₂ (fun t ps => Conforms written (nodes t.inPlace) ps) ts pss)
    (hw : FragmentsHold written (paramNodes ts)) : ∀ ps ∈ pss, ∀ p ∈ ps, p.IsOf written := by
  induction h with
  | nil => simp
  | cons ht _ ih =>
      obtain ⟨hwt, hwts⟩ := hw.paramNodes_cons
      exact List.forall_mem_cons.mpr ⟨ht hwt, ih hwts⟩

theorem ne_other_of_checkOperator {op : Operator} {l r : Term}
    (h : checkOperator s op l r = .ok ()) : ∀ name, op ≠ .other name := by
  rintro name rfl
  simp [checkOperator] at h

theorem toUpper_word_mem {inAggregate : Bool} {f : AggregateFunction}
    (h : checkAggregate s inAggregate f = .ok ()) : f.word.toUpper ∈ vocabulary := by
  cases f with
  | other name => simp [checkAggregate] at h
  | _ => decide +kernel

theorem isOf_between {before after : String} {ps : List Piece} (hbefore : before ∈ vocabulary)
    (hps : ∀ p ∈ ps, p.IsOf written) (hafter : after ∈ vocabulary) :
    ∀ p ∈ .word before :: ps ++ [.word after], p.IsOf written := by
  simp only [List.cons_append, List.forall_mem_cons, List.forall_mem_append, List.not_mem_nil,
    false_implies, implies_true, and_true]
  exact ⟨.word hbefore, hps, .word hafter⟩

theorem isOf_joined {word : String} {ps qs : List Piece} (hps : ∀ p ∈ ps, p.IsOf written)
    (hword : word ∈ vocabulary) (hqs : ∀ p ∈ qs, p.IsOf written) :
    ∀ p ∈ ps ++ .word word :: qs, p.IsOf written :=
  List.forall_mem_append.mpr ⟨hps, List.forall_mem_cons.mpr ⟨.word hword, hqs⟩⟩

theorem compositional_conforms (d : Dialect) (s : Scope) :
    Compositional d s (fun t ps => Conforms written (nodes t) ps) where
  field _ _ _ := by simp [vocabulary]
  bound _ _ := by simp
  binary hop hl hr hw := by
    obtain ⟨hbefore, hbetween, hafter⟩ := operatorWords_mem (d := d) (ne_other_of_checkOperator hop)
    obtain ⟨hwl, hwr⟩ := fragmentsHold_append.mp hw.tail
    exact isOf_between hbefore (isOf_joined (hl hwl) hbetween (hr hwr)) hafter
  connected hword hts hw :=
    isOf_between (by simp [vocabulary])
      (isOf_separated (Piece.connectiveWord_mem hword) (conforms_allNodes_of_forall₂ hts hw.tail))
      (by simp [vocabulary])
  not ht hw := isOf_between (by simp [vocabulary]) (ht hw.tail) (by simp [vocabulary])
  isNull negated ht hw := by
    refine isOf_between (by simp [vocabulary]) (ht hw.tail) ?_
    cases negated <;> simp [vocabulary]
  inNone {_ _ ps} negated _ _ _ := by
    refine isOf_joined (isOf_withoutPlaces ps) ?_ (by simp)
    cases negated <;> simp [vocabulary]
  inList negated ht hvs hw := by
    obtain ⟨hwt, hwvs⟩ := fragmentsHold_append.mp hw.tail
    have hlist : ∀ p ∈ Piece.separated ", " _, p.IsOf written :=
      isOf_separated (by simp [vocabulary]) (conforms_allNodes_of_forall₂ hvs hwvs)
    refine isOf_between (by simp [vocabulary]) (isOf_joined (ht hwt) ?_ hlist)
      (by simp [vocabulary])
    cases negated <;> simp [vocabulary]
  rows _ _ := by simp [vocabulary]
  aggregate distinct hf ht hw := by
    have hopen : (if distinct then "(DISTINCT " else "(") ∈ vocabulary := by
      cases distinct <;> simp [vocabulary]
    refine List.forall_mem_cons.mpr ⟨.word (toUpper_word_mem hf), ?_⟩
    exact isOf_between hopen (ht hw.tail) (by simp [vocabulary])
  fragment hparts _ hts hw :=
    isOf_fillSlots (hw _ _ List.mem_cons_self) hparts (List.Subset.refl _)
      (conforms_paramNodes_of_forall₂ hts hw.tail)

theorem isOf_pieces {inAggregate : Bool} {t : Term} {ps : List Piece}
    (h : t.pieces d s inAggregate = .ok ps)
    (hw : ∀ raw params, .fragment raw params ∈ t.nodes → written raw) :
    ∀ p ∈ ps, p.IsOf written :=
  (compositional_conforms d s).of_pieces h hw

end Term

end RecordMapper
