import Mathlib
import RecordMapper.Proofs.Schema.Layout

/-! # Where tokens stand

The places of tokens are true: each is the number of characters in front of the token, so they grow
from token to token, and between two lexemes stands layout and nothing else. The lines are not: the
line breaks within a quoted text are not counted, and so every token behind one, and an illegal
character behind one, is given a line that is too small. -/

namespace RecordMapper

namespace Lexer

/-- The characters of the lexemes without the layout in front of them. -/
def spelled (ws : List Written) : List Char := ws.flatMap Written.spelling

variable {line position : Nat} {ws : List Written} {rest : List Char}

@[simp] theorem spelled_nil : spelled [] = [] := rfl

@[simp] theorem spelled_cons {w : Written} : spelled (w :: ws) = w.spelling ++ spelled ws :=
  List.flatMap_cons

/-- The line breaks of a row of lexemes are those of its layout and those of its spellings. -/
theorem count_chars : (chars ws).count '\n' = breaks ws + (spelled ws).count '\n' := by
  induction ws with
  | nil => rfl
  | cons w ws ih =>
      rw [chars_cons, Written.chars, List.count_append, List.count_append, ih, breaks_cons,
        spelled_cons, List.count_append]
      omega

theorem le_position {t : Token} (h : t ∈ tokens line position ws) : position ≤ t.position := by
  induction ws generalizing line position with
  | nil => cases h
  | cons w ws ih =>
      rw [tokens] at h
      cases List.mem_cons.mp h with
      | inl heq => simp [heq]
      | inr hmem => exact (Nat.le_add_right _ _).trans (ih hmem)

/-- No lexeme is empty, so the places of tokens grow. -/
theorem pairwise_tokens (h : Laid ws rest) :
    (tokens line position ws).Pairwise fun t u => t.position < u.position := by
  induction h generalizing line position with
  | nil => exact .nil
  | @cons w ws rest _ hspells _ _ ih =>
      refine .cons ?_ ih
      intro t ht
      have hle := le_position ht
      obtain ⟨c, u, hspelling, -⟩ := hspells.exists_cons
      rw [Written.length_chars, hspelling, List.length_cons] at hle
      dsimp only
      omega

/-- The token of a lexeme in a row. -/
theorem getElem?_tokens {before after : List Written} {w : Written} :
    (tokens line position (before ++ w :: after))[before.length]? =
      some ⟨w.lexeme, line + breaks before + w.gap.count '\n',
        position + (chars before).length + w.gap.length⟩ := by
  rw [tokens_append, tokens, List.getElem?_append_right (by rw [length_tokens]), length_tokens,
    Nat.sub_self]
  rfl

/-- Only a quoted text holds line breaks. -/
theorem Laid.string_of_mem (h : Laid ws rest) {w : Written} (hw : w ∈ ws)
    (hbreak : '\n' ∈ w.spelling) : ∃ s, w.lexeme = .string s := by
  by_contra hnone
  have hspells := (h.of_mem hw).2
  exact hspells.not_mem_newline (fun s hs => hnone ⟨s, hs⟩) hbreak

end Lexer

namespace Token

open Lexer

/-- Whatever is read of a text, the text is a row of lexemes, one for each token, with layout in
front of each one and behind the last one that was read; a comment that no line break ends may stand
at the end of a text that is read as a whole. The places of the tokens grow, and each one is the
number of characters in front. A line is 1 and the line breaks in front, but for those that quoted
texts in front hold: with these it would be the true line. The same holds of the line of an illegal
character. -/
theorem places_scan {text : String} {ts : List Token} {stop : Option LexError}
    (h : Token.scan text = (ts, stop)) :
    ts.Pairwise (fun t u => t.position < u.position) ∧
      ∃ ws gap rest, text.toList = chars ws ++ (gap ++ rest) ∧ Laid ws (gap ++ rest) ∧
        ws.length = ts.length ∧
        (∀ before w after, ws = before ++ w :: after →
          ∃ t, ts[before.length]? = some t ∧ t.lexeme = w.lexeme ∧
            text.toList.take t.position = chars before ++ w.gap ∧
            t.position = (chars before ++ w.gap).length ∧
            t.line + (spelled before).count '\n' = 1 + (text.toList.take t.position).count '\n') ∧
        (∀ w ∈ ws, '\n' ∈ w.spelling → ∃ s, w.lexeme = .string s) ∧
        (stop = none → Trailing gap ∧ rest = []) ∧
        ∀ c line, stop = some (.illegal c line) →
          Layout gap ∧ rest.head? = some c ∧
            line + (spelled ws).count '\n' = 1 + (chars ws ++ gap).count '\n' := by
  obtain ⟨ws, gap, rest, stop', htext, hlaid, hgap, hstop⟩ := exists_laid 1 text.toList
  rw [Token.scan, htext, scan_laid_layout hlaid hgap hstop] at h
  obtain ⟨rfl, rfl⟩ := Prod.mk.inj h
  refine ⟨pairwise_tokens hlaid, ws, gap, rest, htext, hlaid, length_tokens.symm, ?_,
    fun w hw => hlaid.string_of_mem hw, ?_, ?_⟩
  · intro before w after hws
    have hfront : text.toList.take (0 + (chars before).length + w.gap.length) =
        chars before ++ w.gap := by
      rw [htext, hws, chars_append, chars_cons, Written.chars]
      simp only [List.append_assoc, ← List.length_append, Nat.zero_add]
      rw [← List.append_assoc (chars before), List.take_left]
    rw [hws]
    refine ⟨_, getElem?_tokens, rfl, hfront, by simp, ?_⟩
    dsimp only
    rw [hfront, List.count_append, count_chars]
    omega
  · intro hnone
    subst hnone
    cases hstop
    cases hgap with
    | inl hend => exact hend
    | inr hmore => exact absurd rfl hmore.2
  · intro c line hillegal
    subst hillegal
    cases hstop with
    | illegal _ =>
        cases hgap with
        | inl hend => simp at hend
        | inr hmore =>
            refine ⟨hmore.1, rfl, ?_⟩
            rw [List.count_append, count_chars]
            omega

/-- Behind a quoted text of two lines a name and an illegal character stand on the second line, and
are given the first. -/
theorem places_scan_twoLines :
    ∃ v w gap rest,
      Token.scan "\"a\nb\" c ?" =
        ([⟨.string "a\nb", 1, 0⟩, ⟨.identifier "c", 1, 6⟩], some (.illegal '?' 1)) ∧
      "\"a\nb\" c ?".toList = chars [v, w] ++ (gap ++ rest) ∧ w.lexeme = .identifier "c" ∧
      1 + ("\"a\nb\" c ?".toList.take 6).count '\n' = 2 ∧ (spelled [v]).count '\n' = 1 ∧
      rest.head? = some '?' ∧ 2 ≤ 1 + (chars [v, w] ++ gap).count '\n' := by
  have hscan : Token.scan "\"a\nb\" c ?" =
      ([⟨.string "a\nb", 1, 0⟩, ⟨.identifier "c", 1, 6⟩], some (.illegal '?' 1)) := by
    cbv
  have htrue : 1 + ("\"a\nb\" c ?".toList.take 6).count '\n' = 2 := by decide
  obtain ⟨-, ws, gap, rest, htext, -, hlength, htokens, -, -, hillegal⟩ := places_scan hscan
  obtain ⟨v, w, rfl⟩ := List.length_eq_two.mp hlength
  obtain ⟨t, ht, hlexeme, -, -, hline⟩ := htokens [v] w [] rfl
  obtain rfl := Option.some.inj ht
  obtain ⟨-, hhead, hcount⟩ := hillegal '?' 1 rfl
  have hspelled : (spelled [v]).count '\n' = 1 := by
    dsimp only at hline
    rw [htrue] at hline
    omega
  have hmore : (spelled [v]).count '\n' ≤ (spelled [v, w]).count '\n' := by simp
  exact ⟨v, w, gap, rest, hscan, htext, hlexeme.symm, htrue, hspelled, hhead, by omega⟩

end Token

end RecordMapper
