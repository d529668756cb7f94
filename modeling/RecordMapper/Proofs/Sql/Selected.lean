import Mathlib.Data.List.Forall2
import RecordMapper.Proofs.Outcome
import RecordMapper.Sql.Select

/-! # Selected terms

A term that is put out becomes a column: its pieces, and a name that no column before it has. -/

namespace RecordMapper

open Outcome

namespace Column

variable {d : Dialect} {s : Scope} {used : List String} {position : Nat} {t : Term}
  {ts : List Term} {c : Column} {cs : List Column}

theorem ofTerm_eq_ok_iff :
    ofTerm d s used position t = .ok c ↔
      (termOf t).pieces d s false = .ok c.term ∧ nameOf used position t = (c.name, c.isNamed) ∧
        c.name ∉ used := by
  obtain ⟨term, name, isNamed⟩ := c
  rw [ofTerm, bind_eq_ok_iff]
  rcases nameOf used position t with ⟨name', isNamed'⟩
  dsimp only
  by_cases hused : name' ∈ used
  · simp only [List.contains_eq_mem, decide_eq_true hused, if_true]
    constructor
    · rintro ⟨ps, -, h⟩
      cases h
    · rintro ⟨-, hname, hnew⟩
      cases hname
      exact absurd hused hnew
  · simp only [List.contains_eq_mem, decide_eq_false hused, Bool.false_eq_true, if_false,
      pure_eq_ok_iff]
    constructor
    · rintro ⟨ps, hps, h⟩
      cases h
      exact ⟨hps, rfl, hused⟩
    · rintro ⟨hps, hname, -⟩
      cases hname
      exact ⟨term, hps, rfl⟩

theorem name_ofTerm (h : ofTerm d s used position t = .ok c) :
    c.name = (nameOf used position t).1 := by
  rw [(ofTerm_eq_ok_iff.mp h).2.1]

/-- Each column has the pieces of the term in its place. -/
theorem forall₂_ofTerms (h : ofTerms d s used position ts = .ok cs) :
    List.Forall₂ (fun t c => (termOf t).pieces d s false = .ok c.term) ts cs := by
  induction ts generalizing used position cs with
  | nil =>
      cases h
      exact .nil
  | cons t ts ih =>
      simp only [ofTerms, bind_eq_ok_iff, pure_eq_ok_iff] at h
      obtain ⟨c, hc, rest, hrest, rfl⟩ := h
      exact .cons (ofTerm_eq_ok_iff.mp hc).1 (ih hrest)

theorem exists_term_of_mem_ofTerms (h : ofTerms d s used position ts = .ok cs) (hc : c ∈ cs) :
    ∃ t ∈ ts, (termOf t).pieces d s false = .ok c.term := by
  have hall := forall₂_ofTerms h
  clear h
  induction hall with
  | nil => cases hc
  | cons hps _ ih =>
      rcases List.mem_cons.mp hc with rfl | hc
      · exact ⟨_, List.mem_cons_self, hps⟩
      · obtain ⟨t, ht, hps⟩ := ih hc
        exact ⟨t, List.mem_cons_of_mem _ ht, hps⟩

end Column

end RecordMapper
