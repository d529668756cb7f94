import RecordMapper.Proofs.Schema.Layout
import RecordMapper.Proofs.Schema.Unplaced

/-! # Layout does not matter

More layout between the tokens of a text, in front of them or behind them leaves the lexemes as they
are: no lexeme goes on into layout, and where layout stood before, what follows a lexeme begins as
it did. So a text with more layout does the same to a registry. -/

namespace RecordMapper

namespace Lexer

/-! ## Rows of lexemes with other layout -/

/-- A lexeme with other layout in front, which may be more but not none where there was some. -/
structure Respaced (w w' : Written) : Prop where
  spelling : w'.spelling = w.spelling
  lexeme : w'.lexeme = w.lexeme
  layout : Layout w'.gap
  kept : w'.gap = [] → w.gap = []

variable {w w' : Written} {ws ws' us : List Written} {rest trail trail' extra : List Char}

theorem Respaced.refl (h : Layout w.gap) : Respaced w w := ⟨rfl, rfl, h, id⟩

theorem Laid.respaced_self (h : Laid ws rest) (hsub : us ⊆ ws) : List.Forall₂ Respaced us us :=
  List.forall₂_same.mpr fun _ hw => .refl (h.of_mem (hsub hw)).1

theorem Laid.back (h : Laid (ws ++ us) rest) : Laid us rest := by
  induction ws with
  | nil => exact h
  | cons w ws ih =>
      rw [List.cons_append] at h
      cases h with
      | cons _ _ _ hlaid => exact ih hlaid

/-- How a lexeme stands among the others. -/
theorem Laid.at (h : Laid (ws ++ w :: us) rest) :
    Spells w.spelling w.lexeme ∧ Ends w.lexeme (chars us ++ rest) ∧ Laid us rest := by
  cases h.back with
  | cons _ hspells hends hlaid => exact ⟨hspells, hends, hlaid⟩

/-- A lexeme is at its end in front of lexemes with other layout. -/
theorem ends_respaced {lexeme : Lexeme} (h : Ends lexeme (chars ws ++ trail)) (hlaid : Laid ws trail)
    (hws : List.Forall₂ Respaced ws ws') (htrail : Trailing trail') :
    Ends lexeme (chars ws' ++ trail') := by
  cases hws with
  | nil =>
      by_cases hne : trail' = []
      · rw [hne]
        exact ends_nil lexeme
      · obtain ⟨c, cs, rfl, hc⟩ := htrail.exists_cons hne
        exact ends_of_beginsLayout hc lexeme
  | @cons w w' ws ws' hw hrest =>
      rw [chars_cons, Written.chars, List.append_assoc, List.append_assoc] at h ⊢
      by_cases hne : w'.gap = []
      · cases hlaid with
        | cons _ hspells _ _ =>
            obtain ⟨c, u, hspelling, hpoint⟩ := hspells.exists_cons
            rw [hw.kept hne, hspelling] at h
            rw [hne, hw.spelling, hspelling]
            exact h.of_head hpoint
      · obtain ⟨c, cs, hgap, hc⟩ := hw.layout.exists_cons hne
        rw [hgap]
        exact ends_of_beginsLayout hc lexeme

/-- Lexemes with other layout are laid out as they have to be. -/
theorem Laid.respaced (h : Laid ws trail) (hws : List.Forall₂ Respaced ws ws')
    (htrail : Trailing trail') : Laid ws' trail' := by
  induction h generalizing ws' with
  | nil =>
      cases hws
      exact .nil trail'
  | @cons w ws rest _ hspells hends hlaid ih =>
      cases hws with
      | @cons _ w' _ ws' hw hrest =>
          refine .cons hw.layout ?_ ?_ (ih hrest)
          · rwa [hw.spelling, hw.lexeme]
          · rw [hw.lexeme]
            exact ends_respaced hends hlaid hrest htrail

theorem lexemes_respaced (h : List.Forall₂ Respaced ws ws') :
    ws'.map Written.lexeme = ws.map Written.lexeme := by
  induction h with
  | nil => rfl
  | cons hw _ ih => rw [List.map_cons, List.map_cons, hw.lexeme, ih]

/-! ## More layout at the end of a text -/

/-- Layout goes on behind its first line break as layout. -/
theorem Layout.split (h : Layout extra) :
    '\n' ∉ extra ∨ ∃ front back, extra = front ++ '\n' :: back ∧ '\n' ∉ front ∧ Layout back := by
  induction h with
  | nil => exact .inl (by simp)
  | @blank c cs hc _ ih =>
      have hne : '\n' ≠ c := by rcases hc with rfl | rfl | rfl <;> decide
      cases ih with
      | inl hnone => exact .inl (List.not_mem_cons_of_ne_of_not_mem hne hnone)
      | inr hsome =>
          obtain ⟨front, back, rfl, hfront, hback⟩ := hsome
          exact .inr ⟨c :: front, back, rfl, List.not_mem_cons_of_ne_of_not_mem hne hfront, hback⟩
  | @newline cs hcs _ => exact .inr ⟨[], cs, rfl, by simp, hcs⟩
  | @comment body cs hbody hcs _ =>
      refine .inr ⟨'#' :: body, cs, rfl, ?_, hcs⟩
      exact List.not_mem_cons_of_ne_of_not_mem (by decide) hbody

/-- Behind a comment that ends with the text, layout belongs to the comment up to its first line
break. -/
theorem Trailing.append (h : Trailing trail) (hextra : Layout extra) : Trailing (trail ++ extra) := by
  cases h with
  | layout h => exact .layout (h.append hextra)
  | @comment cs body h hbody =>
      rw [List.append_assoc, List.cons_append]
      cases hextra.split with
      | inl hnone => exact .comment h (List.not_mem_append hbody hnone)
      | inr hsome =>
          obtain ⟨front, back, rfl, hfront, hback⟩ := hsome
          rw [← List.append_assoc body]
          exact .layout (h.append (.comment (List.not_mem_append hbody hfront) hback))

/-! ## More layout between lexemes -/

/-- Layout in front of a row of lexemes and the layout behind it: it belongs to the first lexeme, or
to what follows the row. -/
theorem exists_prepend (h : Laid ws trail) (htrail : Trailing trail) (hextra : Layout extra) :
    ∃ us more, extra ++ (chars ws ++ trail) = chars us ++ more ∧ List.Forall₂ Respaced ws us ∧
      Trailing more := by
  cases ws with
  | nil => exact ⟨[], extra ++ trail, rfl, .nil, .prepend hextra htrail⟩
  | cons w ws =>
      cases h with
      | cons hgap _ _ hlaid =>
          refine ⟨{ w with gap := extra ++ w.gap } :: ws, trail, ?_,
            .cons ?_ (hlaid.respaced_self fun _ => id), htrail⟩
          · simp [Written.chars]
          · refine ⟨rfl, rfl, hextra.append hgap, ?_⟩
            intro hnil
            exact (List.append_eq_nil_iff.mp hnil).2

/-- The places in a text where no token is torn: its start, its end, in front of a token and behind
one. -/
inductive Seam (text : List Char) (ts : List Token) : Nat → Prop where
  | start : Seam text ts 0
  | finish : Seam text ts text.length
  | before {t : Token} : t ∈ ts → Seam text ts t.position
  | behind {t : Token} {c : Char} {cs : List Char} {extra : Nat} : t ∈ ts →
      text.drop t.position = c :: cs → piece c cs = .token t.lexeme extra →
      Seam text ts (t.position + extra + 1)

theorem exists_of_mem_tokens {line position : Nat} {t : Token} (h : t ∈ tokens line position ws) :
    ∃ before w after, ws = before ++ w :: after ∧ t.lexeme = w.lexeme ∧
      t.position = position + (chars before ++ w.gap).length := by
  induction ws generalizing line position with
  | nil => cases h
  | cons w ws ih =>
      rw [tokens] at h
      cases List.mem_cons.mp h with
      | inl heq => exact ⟨[], w, ws, rfl, by rw [heq], by rw [heq]; rfl⟩
      | inr hmem =>
          obtain ⟨before, v, after, rfl, hlexeme, hposition⟩ := ih hmem
          refine ⟨w :: before, v, after, rfl, hlexeme, ?_⟩
          rw [hposition, chars_cons]
          simp only [List.length_append]
          omega

/-- The text of a row of lexemes, parted in front of the spelling of one of them. -/
theorem chars_part : chars (ws ++ w :: us) ++ rest =
    (chars ws ++ w.gap) ++ (w.spelling ++ (chars us ++ rest)) := by
  simp [Written.chars]

/-- A token that is read reaches as far as its spelling. -/
theorem length_spelling {spelling cs : List Char} {c : Char} {lexeme lexeme' : Lexeme} {n : Nat}
    (hspells : Spells spelling lexeme) (hends : Ends lexeme rest) (htext : spelling ++ rest = c :: cs)
    (hpiece : piece c cs = .token lexeme' n) : spelling.length = n + 1 := by
  obtain ⟨d, u, rfl, -⟩ := hspells.exists_cons
  rw [List.cons_append] at htext
  obtain ⟨rfl, rfl⟩ := List.cons.inj htext
  rw [piece_of_spells hspells hends] at hpiece
  rw [List.length_cons, (Piece.token.inj hpiece).2]

/-- Layout at a seam changes the layout of the row of lexemes. -/
theorem exists_respaced {place : Nat} (h : Laid ws trail) (htrail : Trailing trail)
    (hseam : Seam (chars ws ++ trail) (tokens 1 0 ws) place) (hextra : Layout extra) :
    ∃ us more,
      (chars ws ++ trail).take place ++ (extra ++ (chars ws ++ trail).drop place) =
        chars us ++ more ∧ List.Forall₂ Respaced ws us ∧ Trailing more := by
  cases hseam with
  | start => exact exists_prepend h htrail hextra
  | finish =>
      refine ⟨ws, trail ++ extra, ?_, h.respaced_self fun _ => id, htrail.append hextra⟩
      rw [List.take_length, List.drop_length, List.append_nil, List.append_assoc]
  | before ht =>
      obtain ⟨before, w, after, rfl, -, hposition⟩ := exists_of_mem_tokens ht
      have hgap : Layout w.gap := (h.of_mem (by simp)).1
      rw [hposition, Nat.zero_add, chars_part, List.take_left, List.drop_left]
      refine ⟨before ++ { w with gap := w.gap ++ extra } :: after, trail, ?_, ?_, htrail⟩
      · simp [Written.chars]
      · refine List.rel_append (h.respaced_self (by simp)) (.cons ?_ (h.respaced_self ?_))
        · exact ⟨rfl, rfl, hgap.append hextra, fun hnil => (List.append_eq_nil_iff.mp hnil).1⟩
        · intro v hv
          simp [hv]
  | @behind t c cs n ht hdrop hpiece =>
      obtain ⟨before, w, after, rfl, -, hposition⟩ := exists_of_mem_tokens ht
      obtain ⟨hspells, hends, hafter⟩ := h.at
      rw [hposition, Nat.zero_add, chars_part, List.drop_left] at hdrop
      have hlength := length_spelling hspells hends hdrop hpiece
      have hplace : t.position + n + 1 = (chars (before ++ [w])).length := by
        rw [hposition, chars_append, chars_cons, chars_nil]
        simp only [List.length_append, Written.length_chars, List.length_nil]
        omega
      have hfront : chars (before ++ w :: after) ++ trail =
          chars (before ++ [w]) ++ (chars after ++ trail) := by
        simp
      obtain ⟨us, rest, hnew, hrespaced, hrest⟩ := exists_prepend hafter htrail hextra
      rw [hplace, hfront, List.take_left, List.drop_left, hnew]
      refine ⟨before ++ w :: us, rest, by simp, ?_, hrest⟩
      exact List.rel_append (h.respaced_self (by simp))
        (.cons (.refl (h.of_mem (by simp)).1) hrespaced)

/-- The second text is the first one with more layout at a place where no token is torn. -/
def Loosened (text text' : String) : Prop :=
  ∃ ts place extra, Token.ofText text = .ok ts ∧ Seam text.toList ts place ∧ Layout extra ∧
    text' = String.ofList (text.toList.take place ++ (extra ++ text.toList.drop place))

/-- One insertion keeps the lexemes. -/
theorem Loosened.lexemes {text text' : String} {ts : List Token} (h : Loosened text text')
    (hts : Token.ofText text = .ok ts) :
    ∃ ts', Token.ofText text' = .ok ts' ∧ ts'.map Token.lexeme = ts.map Token.lexeme := by
  obtain ⟨_, place, extra, hts', hseam, hextra, rfl⟩ := h
  obtain rfl := Except.ok.inj (hts.symm.trans hts')
  obtain ⟨ws, trail, htext, hlaid, htrail, rfl⟩ :=
    scan_eq_done_iff_laid.mp (Declaration.scan_of_ofText hts)
  rw [htext] at hseam ⊢
  obtain ⟨us, more, hnew, hrespaced, hmore⟩ := exists_respaced hlaid htrail hseam hextra
  have hscan : Token.scan (String.ofList (chars us ++ more)) = (tokens 1 0 us, none) := by
    rw [Token.scan, String.toList_ofList]
    exact scan_eq_done_iff_laid.mpr ⟨us, more, rfl, hlaid.respaced hrespaced hmore, hmore, rfl⟩
  rw [hnew]
  refine ⟨tokens 1 0 us, ?_, ?_⟩
  · rw [Token.ofText, hscan]
  · rw [lexeme_tokens, lexeme_tokens, lexemes_respaced hrespaced]

/-- Any number of insertions keeps the lexemes. -/
theorem lexemes_of_loosened {text text' : String} {ts : List Token}
    (hts : Token.ofText text = .ok ts) (h : Relation.ReflTransGen Loosened text text') :
    ∃ ts', Token.ofText text' = .ok ts' ∧ ts'.map Token.lexeme = ts.map Token.lexeme := by
  induction h with
  | refl => exact ⟨ts, hts, rfl⟩
  | tail _ hstep ih =>
      obtain ⟨us, hus, hlexemes⟩ := ih
      obtain ⟨vs, hvs, hstep⟩ := hstep.lexemes hus
      exact ⟨vs, hvs, hstep.trans hlexemes⟩

end Lexer

namespace Registry

open Lexer

/-- Layout at the start or the end of a text that can be read, in front of its tokens or behind
them, at any number of places, gives a text of the same lexemes. It does the same to every registry:
the same schemas are registered, and it is taken or refused with the same error, but for the line
and the place in it. -/
theorem extend_loosened {text text' : String} {ts : List Token} (hts : Token.ofText text = .ok ts)
    (h : Relation.ReflTransGen Loosened text text') :
    (∃ ts', Token.ofText text' = .ok ts' ∧ ts'.map Token.lexeme = ts.map Token.lexeme) ∧
      ∀ r : Registry, (r.extend text').1 = (r.extend text).1 ∧
        (r.extend text').2.mapError SchemaTextError.unplaced =
          (r.extend text).2.mapError SchemaTextError.unplaced := by
  obtain ⟨ts', hts', hlexemes⟩ := lexemes_of_loosened hts h
  refine ⟨⟨ts', hts', hlexemes⟩, ?_⟩
  intro r
  exact Prod.mk.inj (extend_unplaced hts hts' hlexemes r)

/-- A comment with a quote and a brace in it goes behind the name of a schema, and then a blank in
front of a negative default. -/
theorem extend_loosened_comment :
    (∃ ts', Token.ofText "schema A#\"\x7b\n\t\x7bx:integer= -1\x7d" = .ok ts' ∧
        ts'.map Token.lexeme = [.keyword .schema, .identifier "A", .mark .leftBrace, .identifier "x",
          .mark .colon, .identifier "integer", .mark .equals, .integer (-1), .mark .rightBrace]) ∧
      (empty.extend "schema A#\"\x7b\n\t\x7bx:integer= -1\x7d").1 =
        (empty.extend "schema A\x7bx:integer=-1\x7d").1 := by
  have hts : Token.ofText "schema A\x7bx:integer=-1\x7d" = .ok
      [⟨.keyword .schema, 1, 0⟩, ⟨.identifier "A", 1, 7⟩, ⟨.mark .leftBrace, 1, 8⟩,
        ⟨.identifier "x", 1, 9⟩, ⟨.mark .colon, 1, 10⟩, ⟨.identifier "integer", 1, 11⟩,
        ⟨.mark .equals, 1, 18⟩, ⟨.integer (-1), 1, 19⟩, ⟨.mark .rightBrace, 1, 21⟩] := by
    cbv
  have hbetween : Token.ofText "schema A#\"\x7b\n\t\x7bx:integer=-1\x7d" = .ok
      [⟨.keyword .schema, 1, 0⟩, ⟨.identifier "A", 1, 7⟩, ⟨.mark .leftBrace, 2, 13⟩,
        ⟨.identifier "x", 2, 14⟩, ⟨.mark .colon, 2, 15⟩, ⟨.identifier "integer", 2, 16⟩,
        ⟨.mark .equals, 2, 23⟩, ⟨.integer (-1), 2, 24⟩, ⟨.mark .rightBrace, 2, 26⟩] := by
    cbv
  have hcomment : Loosened "schema A\x7bx:integer=-1\x7d"
      "schema A#\"\x7b\n\t\x7bx:integer=-1\x7d" := by
    refine ⟨_, 8, ['#', '"', '\x7b', '\n', '\t'], hts, ?_, ?_, by decide⟩
    · have hpiece : piece 'A' "\x7bx:integer=-1\x7d".toList = .token (.identifier "A") 0 := by cbv
      exact @Seam.behind _ _ ⟨.identifier "A", 1, 7⟩ _ _ 0 (by simp) rfl hpiece
    · exact @Layout.comment ['"', '\x7b'] ['\t'] (by decide) (.blank (by decide) .nil)
  have hblank : Loosened "schema A#\"\x7b\n\t\x7bx:integer=-1\x7d"
      "schema A#\"\x7b\n\t\x7bx:integer= -1\x7d" := by
    refine ⟨_, 24, [' '], hbetween, ?_, .blank (by decide) .nil, by decide⟩
    exact @Seam.before _ _ ⟨.integer (-1), 2, 24⟩ (by simp)
  obtain ⟨hlexemes, hextend⟩ := extend_loosened hts (.tail (.single hcomment) hblank)
  exact ⟨hlexemes, (hextend empty).1⟩

end Registry

end RecordMapper
