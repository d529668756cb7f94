import Mathlib
import RecordMapper.Proofs.Fragment.Scanning
import RecordMapper.Proofs.Sql.Binding

/-! # The text of a fragment read again

Where every placeholder is a question mark, the text of a fragment can be cut at its slots again.
Question marks between quotes are still no slots, and neither is one behind two backslashes, of
which one is left. A question mark behind a single backslash has lost it, and is a slot to which no
parameter belongs. -/

namespace RecordMapper

open Outcome Text

namespace Fragment

/-- The character that a sign is written as where placeholders are question marks. -/
def Sign.char : Sign → Char
  | .kept c => c
  | .slot => '?'

/-- How often a single backslash escapes a question mark, by the quote that is open before the text
and the character before it. -/
def loneEscapes (quote previous : Option Char) : List Char → Nat
  | [] => 0
  | c :: cs =>
    (if c = '\\' ∧ quote = none ∧ previous ≠ some '\\' ∧ cs.head? = some '?' then 1 else 0) +
      loneEscapes (quoteAfter quote c) (some c) cs

/-- Outside quotes, a single backslash escapes a question mark. -/
def HasLoneEscape (text : String) : Prop :=
  ∃ front back, text.toList = front ++ '\\' :: '?' :: back ∧
    quoteAtEnd none front = none ∧ front.getLast? ≠ some '\\'

theorem getLast?_cons_or (c : Char) (cs : List Char) (previous : Option Char) :
    (c :: cs).getLast?.or previous = cs.getLast?.or (some c) := by
  rw [List.getLast?_cons]
  cases cs.getLast? <;> rfl

theorem loneEscapes_pos_iff (quote previous : Option Char) (cs : List Char) :
    0 < loneEscapes quote previous cs ↔
      ∃ front back, cs = front ++ '\\' :: '?' :: back ∧
        quoteAtEnd quote front = none ∧ front.getLast?.or previous ≠ some '\\' := by
  induction cs generalizing quote previous with
  | nil => simp [loneEscapes]
  | cons c cs ih =>
      rw [loneEscapes, Nat.add_pos_iff_pos_or_pos, ih]
      constructor
      · rintro (hhere | ⟨front, back, rfl, hquote, hlast⟩)
        · split at hhere
          · rename_i h
            obtain ⟨rfl, hquote, hprevious, hnext⟩ := h
            obtain ⟨back, rfl⟩ := List.head?_eq_some_iff.mp hnext
            exact ⟨[], back, rfl, hquote, hprevious⟩
          · exact absurd hhere (Nat.lt_irrefl 0)
        · refine ⟨c :: front, back, rfl, hquote, ?_⟩
          rwa [getLast?_cons_or]
      · rintro ⟨front, back, hcs, hquote, hlast⟩
        cases front with
        | nil =>
            obtain ⟨rfl, rfl⟩ := List.cons.inj hcs
            exact .inl (by simp_all)
        | cons d front =>
            obtain ⟨rfl, rfl⟩ := List.cons.inj hcs
            refine .inr ⟨front, back, rfl, hquote, ?_⟩
            rwa [getLast?_cons_or] at hlast

theorem hasLoneEscape_iff (text : String) :
    HasLoneEscape text ↔ 0 < loneEscapes none none text.toList := by
  rw [loneEscapes_pos_iff]
  simp only [HasLoneEscape, Option.or_none]

/-! ## The scan of what was written -/

theorem quoteAtEnd_signs (quote previous : Option Char) (cs : List Char) :
    quoteAtEnd quote ((signs quote previous cs).map Sign.char) = quoteAtEnd quote cs := by
  induction cs generalizing quote previous with
  | nil => rfl
  | cons c cs ih =>
      rw [signs, List.map_append, quoteAtEnd_append, quoteAtEnd_cons, ← ih _ (some c)]
      congr 1
      unfold signsOf
      split_ifs with hslot hescape
      · obtain ⟨rfl, -⟩ := hslot
        rfl
      · obtain ⟨rfl, rfl, -⟩ := hescape
        rfl
      · rfl

/-- Whether a character is a slot does not depend on what follows it. -/
theorem count_signsOf (quote previous : Option Char) (c : Char) (next : Option Char) :
    (signsOf quote previous c next).count .slot =
      if c = '?' ∧ quote = none ∧ previous ≠ some '\\' then 1 else 0 := by
  unfold signsOf
  split_ifs <;> simp

theorem count_signs_cons (quote previous : Option Char) (c : Char) (cs : List Char) :
    (signs quote previous (c :: cs)).count .slot =
      (if c = '?' ∧ quote = none ∧ previous ≠ some '\\' then 1 else 0) +
        (signs (quoteAfter quote c) (some c) cs).count .slot := by
  rw [signs, List.count_append, count_signsOf]

/-- But for a backslash that is dropped, a character is written as it is. -/
theorem map_char_signsOf {quote previous : Option Char} {c : Char} {next : Option Char}
    (h : ¬ (c = '\\' ∧ quote = none ∧ next = some '?')) :
    (signsOf quote previous c next).map Sign.char = [c] := by
  unfold signsOf
  split_ifs with hslot
  · rw [hslot.1]
    rfl
  · rfl

/-- Written and scanned again, a text has its slots and one more for each question mark that a
single backslash escaped. -/
theorem count_signs_again (quote previous : Option Char) (cs : List Char) :
    (signs quote previous ((signs quote previous cs).map Sign.char)).count .slot =
      (signs quote previous cs).count .slot + loneEscapes quote previous cs := by
  match cs with
  | [] => rfl
  | c :: cs =>
    by_cases hescape : c = '\\' ∧ quote = none ∧ cs.head? = some '?'
    · -- The backslash goes with its question mark, of which only the latter is written.
      obtain ⟨rfl, rfl, hnext⟩ := hescape
      obtain ⟨ds, rfl⟩ := List.head?_eq_some_iff.mp hnext
      have hwritten : (signs none previous ('\\' :: '?' :: ds)).map Sign.char =
          '?' :: (signs none (some '?') ds).map Sign.char := by
        simp [signs, signsOf, quoteAfter, Sign.char]
      have hrest := count_signs_again none (some '?') ds
      simp only [hwritten, count_signs_cons, loneEscapes, quoteAfter, List.head?_cons]
      by_cases hprevious : previous = some '\\'
      · simp [hprevious, hrest]
      · simp [hprevious, hrest]
        omega
    · have hwritten : (signs quote previous (c :: cs)).map Sign.char =
          c :: (signs (quoteAfter quote c) (some c) cs).map Sign.char := by
        rw [signs, List.map_append, map_char_signsOf hescape, List.singleton_append]
      have hlone : ¬ (c = '\\' ∧ quote = none ∧ previous ≠ some '\\' ∧ cs.head? = some '?') :=
        fun h => hescape ⟨h.1, h.2.1, h.2.2.2⟩
      rw [hwritten, count_signs_cons, count_signs_cons, loneEscapes, if_neg hlone,
        count_signs_again (quoteAfter quote c) (some c) cs]
      omega
termination_by cs.length

/-- The text that signs are written as is cut as often as they have slots, and once more for each
question mark that a single backslash escaped. -/
theorem countSlots_again {text : String} (h : openAtEnd text = none) :
    countSlots (String.ofList ((signsIn text).map Sign.char)) =
      .ok ((signsIn text).count .slot + loneEscapes none none text.toList) := by
  have hclosed : openAtEnd (String.ofList ((signsIn text).map Sign.char)) = none := by
    rw [openAtEnd, String.toList_ofList, signsIn, quoteAtEnd_signs]
    exact h
  rcases split_cases (String.ofList ((signsIn text).map Sign.char)) with ⟨-, hsplit⟩ | ⟨e, hopen, -⟩
  · rw [countSlots, hsplit, Except.map, slotCount_ofSigns, signsIn, String.toList_ofList, signsIn,
      count_signs_again]
  · rw [hclosed] at hopen
    cases hopen

end Fragment

namespace Piece

variable {d : Dialect}

/-- Parts with one value in each slot are written as the signs that they stand for. -/
theorem render_fillSlots (hd : ∀ position, d.placeholder position = ['?'])
    {parts : List Fragment.Part} {params : List Parameter}
    (h : Fragment.slotCount parts = params.length) (bound : Nat) :
    render d bound (Term.fillSlots parts (params.map fun p => [.slot p])) =
      (parts.flatMap Fragment.Part.signs).map Fragment.Sign.char := by
  induction parts generalizing params bound with
  | nil => rfl
  | cons part parts ih =>
      cases part with
      | text cs =>
          have hcount : Fragment.slotCount parts = params.length := by
            simpa [Fragment.slotCount] using h
          have hrest := ih hcount bound
          simp [Term.fillSlots, render, Fragment.Part.signs, hrest, Function.comp_def,
            Fragment.Sign.char]
      | slot =>
          cases params with
          | nil => simp [Fragment.slotCount] at h
          | cons p params =>
              have hcount : Fragment.slotCount parts = params.length := by
                simpa [Fragment.slotCount] using h
              have hrest := ih hcount (bound + 1)
              simp [Term.fillSlots, render, Fragment.Part.signs, hrest, hd, Fragment.Sign.char]

end Piece

namespace Term

/-- What is no term is bound, each item in the place of its slot. -/
theorem piecesOfParams_of_not_isTerm (d : Dialect) (s : Scope) (inAggregate : Bool) {ts : List Term}
    (h : ∀ t ∈ ts, t.isTerm = false) :
    ∃ params : List Parameter, params.length = ts.length ∧
      piecesOfParams d s inAggregate ts = .ok (params.map fun p => [.slot p]) := by
  induction ts with
  | nil => exact ⟨[], rfl, rfl⟩
  | cons t ts ih =>
      obtain ⟨ht, hts⟩ := List.forall_mem_cons.mp h
      obtain ⟨params, hlength, hparams⟩ := ih hts
      obtain ⟨p, hp⟩ : ∃ p, Parameter.ofTerm? t = some p := by
        cases t <;> simp_all [Parameter.ofTerm?, isTerm]
      refine ⟨p :: params, by simp [hlength], ?_⟩
      rw [piecesOfParams_cons, inPlace_of_some hp, pieces_toTerm, hparams]
      rfl

/-- Where placeholders are question marks, a fragment whose parameters are all values binds each of
them once. Cut at its slots again, its text has a slot for each of them, and one more for each
question mark outside quotes that a single backslash escapes. So there are as many slots as values
exactly when there is no such question mark. -/
theorem countSlots_render_fragment {d : Dialect} {s : Scope} {inAggregate : Bool}
    (hd : ∀ position, d.placeholder position = ['?']) {raw : String} {params : List Term}
    (hparams : ∀ t ∈ params, t.isTerm = false) {ps : List Piece}
    (h : (Term.fragment raw params).pieces d s inAggregate = .ok ps) (bound : Nat) :
    (Piece.parameters ps).length = params.length ∧
      ∃ n, Fragment.countSlots (String.ofList (Piece.render d bound ps)) = .ok n ∧
        n = params.length + Fragment.loneEscapes none none raw.toList ∧
        (n = params.length ↔ ¬ Fragment.HasLoneEscape raw) := by
  simp only [pieces, bind_eq_ok_iff, pure_eq_ok_iff, fragmentParts_eq_ok_iff] at h
  obtain ⟨parts, ⟨hparts, hcount⟩, pss, hpss, rfl⟩ := h
  obtain ⟨values, hlength, hvalues⟩ := piecesOfParams_of_not_isTerm d s inAggregate hparams
  obtain rfl : _ = pss := Except.ok.inj (hvalues.symm.trans hpss)
  rw [← hlength] at hcount ⊢
  have hbound : Piece.parameters (fillSlots parts (values.map fun p => [.slot p])) = values := by
    rw [Piece.parameters_fillSlots (by simpa using hcount), List.flatMap_map]
    exact List.flatMap_singleton' values
  rw [hbound, Piece.render_fillSlots hd hcount]
  rcases Fragment.split_cases raw with ⟨hclosed, hsplit⟩ | ⟨e, -, -, hsplit⟩
  · obtain rfl : _ = parts := Except.ok.inj (hsplit.symm.trans hparts)
    rw [Fragment.slotCount_ofSigns] at hcount
    rw [Fragment.signs_ofSigns, Fragment.countSlots_again hclosed, hcount,
      Fragment.hasLoneEscape_iff]
    exact ⟨rfl, _, rfl, rfl, by omega⟩
  · rw [hsplit] at hparts
    cases hparts

/-- A question mark behind one backslash is read as a slot; those behind two backslashes and between
quotes are not. -/
theorem countSlots_render_fragment_escaped :
    let raw := "a \\? 'b' OR c \\\\? 'why?' OR d = ?"
    let ps : List Piece := [.raw "a ? 'b' OR c \\? 'why?' OR d = ".toList, .slot (.value (.int 7))]
    (Term.fragment raw [.plain (.int 7)]).pieces .sqlite ⟨[], .where⟩ false = .ok ps ∧
      Fragment.HasLoneEscape raw ∧
      Fragment.countSlots (String.ofList (Piece.render .sqlite 0 ps)) = .ok 2 := by
  intro raw ps
  have hpieces : (Term.fragment raw [.plain (.int 7)]).pieces .sqlite ⟨[], .where⟩ false =
      .ok ps := by cbv
  obtain ⟨-, n, hslots, rfl, hiff⟩ := countSlots_render_fragment (fun _ => rfl)
    (List.forall_mem_singleton.mpr rfl) hpieces 0
  have hlone : Fragment.loneEscapes none none raw.toList = 1 := by cbv
  rw [hlone] at hslots hiff
  exact ⟨hpieces, not_not.mp fun h => absurd (hiff.mpr h) (by decide), hslots⟩

end Term

end RecordMapper
