import RecordMapper.Proofs.Schema.Lexemes
import RecordMapper.Proofs.Schema.Quoting

/-! # Lexemes and the layout between them

Between lexemes stands layout: blanks, line breaks and comments. A text is read as a row of lexemes,
each with the layout in front of it, up to an end or to something that is no token. The tokens are
these lexemes; their places count all characters in front, but their lines only the line breaks of
the layout. -/

namespace RecordMapper.Lexer

/-! ## Layout -/

/-- Blanks, line breaks and comments, each comment up to the end of its line. -/
inductive Layout : List Char → Prop where
  | nil : Layout []
  | blank {c : Char} {cs : List Char} : c = ' ' ∨ c = '\t' ∨ c = '\r' → Layout cs → Layout (c :: cs)
  | newline {cs : List Char} : Layout cs → Layout ('\n' :: cs)
  | comment {body cs : List Char} : '\n' ∉ body → Layout cs → Layout ('#' :: (body ++ '\n' :: cs))

/-- Layout at the end of a text, where a comment may end with the text. -/
inductive Trailing : List Char → Prop where
  | layout {cs : List Char} : Layout cs → Trailing cs
  | comment {cs body : List Char} : Layout cs → '\n' ∉ body → Trailing (cs ++ '#' :: body)

variable {line position : Nat} {gap rest cs : List Char}

theorem Layout.append (h : Layout gap) (hcs : Layout cs) : Layout (gap ++ cs) := by
  induction h with
  | nil => exact hcs
  | blank hc _ ih => exact .blank hc ih
  | newline _ ih => exact .newline ih
  | comment hbody _ ih =>
      rw [List.cons_append, List.append_assoc]
      exact .comment hbody ih

theorem Trailing.prepend (h : Layout gap) (hcs : Trailing cs) : Trailing (gap ++ cs) := by
  cases hcs with
  | layout hcs => exact .layout (h.append hcs)
  | comment hcs hbody =>
      rw [← List.append_assoc]
      exact .comment (h.append hcs) hbody

theorem Layout.exists_cons (h : Layout gap) (hne : gap ≠ []) :
    ∃ c cs, gap = c :: cs ∧ BeginsLayout c := by
  cases h with
  | nil => exact absurd rfl hne
  | blank hc _ => exact ⟨_, _, rfl, by unfold BeginsLayout; tauto⟩
  | newline _ => exact ⟨_, _, rfl, by unfold BeginsLayout; tauto⟩
  | comment _ _ => exact ⟨_, _, rfl, by unfold BeginsLayout; tauto⟩

theorem Trailing.exists_cons (h : Trailing gap) (hne : gap ≠ []) :
    ∃ c cs, gap = c :: cs ∧ BeginsLayout c := by
  cases h with
  | layout h => exact h.exists_cons hne
  | @comment cs body h _ =>
      cases cs with
      | nil => exact ⟨'#', body, rfl, by unfold BeginsLayout; tauto⟩
      | cons d ds =>
          obtain ⟨c, cs, heq, hc⟩ := h.exists_cons (List.cons_ne_nil d ds)
          exact ⟨c, cs ++ '#' :: body, by rw [heq]; rfl, hc⟩

/-! ## Layout is passed over -/

/-- Line breaks that stand together are passed over one by one. -/
theorem scan_newline :
    scan line position ('\n' :: cs) = scan (line + 1) (position + 1) cs := by
  have hpiece : ∀ ds, piece '\n' ds = .breaks (ds.takeWhile (· == '\n')).length := fun ds => rfl
  cases cs with
  | nil => simp [scan, hpiece]
  | cons d ds =>
      by_cases hd : d = '\n'
      · subst hd
        rw [scan, scan]
        simp only [hpiece, List.takeWhile_cons_of_pos, beq_self_eq_true, List.length_cons,
          List.drop_succ_cons]
        congr 1 <;> omega
      · rw [scan]
        simp [hpiece, hd]

/-- A comment ends in front of the next line break. -/
theorem scan_comment {body : List Char} (hbody : '\n' ∉ body)
    (hrest : ∀ d ds, rest = d :: ds → d = '\n') :
    scan line position ('#' :: (body ++ rest)) = scan line (position + body.length + 1) rest := by
  have hpiece : piece '#' (body ++ rest) = .blank body.length := by
    have htake : (body ++ rest).takeWhile (· != '\n') = body := by
      have hall : ∀ d ∈ body, (d != '\n') = true := by
        intro d hd
        rw [bne_iff_ne]
        intro h
        exact hbody (h ▸ hd)
      rw [List.takeWhile_append_of_pos hall]
      cases rest with
      | nil => simp
      | cons d ds => simp [hrest d ds rfl]
    have hhash : piece '#' (body ++ rest) =
      .blank ((body ++ rest).takeWhile (· != '\n')).length := rfl
    rw [hhash, htake]
  rw [scan]
  simp only [hpiece, List.drop_left]

theorem scan_layout (h : Layout gap) :
    scan line position (gap ++ rest) = scan (line + gap.count '\n') (position + gap.length) rest := by
  induction h generalizing line position with
  | nil => rfl
  | @blank c cs hc _ ih =>
      have hne : c ≠ '\n' := by rcases hc with rfl | rfl | rfl <;> decide
      rw [List.cons_append, scan_space hc, ih, List.count_cons_of_ne hne, List.length_cons]
      congr 1
      omega
  | newline _ ih =>
      rw [List.cons_append, scan_newline, ih, List.count_cons_self, List.length_cons]
      congr 1 <;> omega
  | @comment body cs hbody _ ih =>
      have hcount : ('#' :: (body ++ '\n' :: cs)).count '\n' = cs.count '\n' + 1 := by
        simp [List.count_eq_zero_of_not_mem hbody]
      rw [List.cons_append, List.append_assoc, scan_comment hbody (by simp), List.cons_append,
        scan_newline, ih, hcount, List.length_cons, List.length_append, List.length_cons]
      congr 1 <;> omega

theorem scan_trailing (h : Trailing cs) : scan line position cs = ([], none) := by
  cases h with
  | layout h =>
      rw [← List.append_nil cs, scan_layout h, scan]
  | @comment gap body h hbody =>
      have hend : ∀ d ds, ([] : List Char) = d :: ds → d = '\n' := fun d ds heq => by cases heq
      rw [scan_layout h, ← List.append_nil body, scan_comment hbody hend, scan]

/-! ## Where layout ends -/

/-- The text begins with layout up to its end or to something else. -/
def EndsLayout (cs : List Char) : Prop :=
  ∃ gap rest, cs = gap ++ rest ∧
    (Trailing gap ∧ rest = [] ∨ Layout gap ∧ ∃ d ds, rest = d :: ds ∧ ¬ BeginsLayout d)

theorem EndsLayout.prepend (h : EndsLayout cs) (hgap : Layout gap) : EndsLayout (gap ++ cs) := by
  obtain ⟨more, rest, rfl, hmore⟩ := h
  refine ⟨gap ++ more, rest, (List.append_assoc _ _ _).symm, ?_⟩
  cases hmore with
  | inl h => exact .inl ⟨.prepend hgap h.1, h.2⟩
  | inr h => exact .inr ⟨hgap.append h.1, h.2⟩

/-- The layout in front of every text ends. -/
theorem endsLayout (cs : List Char) : EndsLayout cs := by
  induction hn : cs.length using Nat.strong_induction_on generalizing cs with
  | _ n ih =>
    cases cs with
    | nil => exact ⟨[], [], rfl, .inl ⟨.layout .nil, rfl⟩⟩
    | cons c cs =>
        rw [List.length_cons] at hn
        by_cases hspace : c = ' ' ∨ c = '\t' ∨ c = '\r'
        · exact (ih cs.length (by omega) cs rfl).prepend (.blank hspace .nil)
        by_cases hnewline : c = '\n'
        · subst hnewline
          exact (ih cs.length (by omega) cs rfl).prepend (.newline .nil)
        by_cases hhash : c = '#'
        · subst hhash
          by_cases hmem : '\n' ∈ cs
          · obtain ⟨body, behind, rfl, hbody⟩ := List.eq_append_cons_of_mem hmem
            have hshorter : behind.length < n := by
              rw [List.length_append, List.length_cons] at hn
              omega
            have hbehind := (ih behind.length hshorter behind rfl).prepend (.comment hbody .nil)
            rwa [List.cons_append, List.append_assoc, List.singleton_append] at hbehind
          · exact ⟨'#' :: cs, [], by simp, .inl ⟨.comment .nil hmem, rfl⟩⟩
        · refine ⟨[], c :: cs, rfl, .inr ⟨.nil, c, cs, rfl, ?_⟩⟩
          unfold BeginsLayout
          tauto

/-! ## Rows of lexemes -/

/-- A lexeme with its spelling, and the layout in front of it. -/
structure Written where
  gap : List Char
  spelling : List Char
  lexeme : Lexeme

namespace Written

/-- The layout and the lexeme as they are written. -/
def chars (w : Written) : List Char := w.gap ++ w.spelling

end Written

/-- The text of a row of lexemes. -/
def chars (ws : List Written) : List Char := ws.flatMap Written.chars

/-- The line breaks of the layout of a row of lexemes. -/
def breaks (ws : List Written) : Nat := (ws.map fun w => w.gap.count '\n').sum

/-- The tokens of a row of lexemes, which begins at a line and a place. -/
def tokens (line position : Nat) : List Written → List Token
  | [] => []
  | w :: ws =>
    ⟨w.lexeme, line + w.gap.count '\n', position + w.gap.length⟩ ::
      tokens (line + w.gap.count '\n') (position + w.chars.length) ws

/-- Lexemes as they are written in front of a text: each one has layout in front, is spelled as it
has to be and is at its end where its spelling ends. -/
inductive Laid : List Written → List Char → Prop where
  | nil (rest : List Char) : Laid [] rest
  | cons {w : Written} {ws : List Written} {rest : List Char} : Layout w.gap →
      Spells w.spelling w.lexeme → Ends w.lexeme (chars ws ++ rest) → Laid ws rest →
      Laid (w :: ws) rest

variable {w : Written} {ws : List Written}

@[simp] theorem chars_nil : chars [] = [] := rfl

@[simp] theorem chars_cons : chars (w :: ws) = w.chars ++ chars ws := List.flatMap_cons

@[simp] theorem chars_append {us : List Written} : chars (ws ++ us) = chars ws ++ chars us :=
  List.flatMap_append

@[simp] theorem breaks_nil : breaks [] = 0 := rfl

@[simp] theorem breaks_cons : breaks (w :: ws) = w.gap.count '\n' + breaks ws := rfl

@[simp] theorem Written.length_chars : w.chars.length = w.gap.length + w.spelling.length :=
  List.length_append

@[simp] theorem breaks_append {us : List Written} : breaks (ws ++ us) = breaks ws + breaks us := by
  simp [breaks]

theorem length_tokens : (tokens line position ws).length = ws.length := by
  induction ws generalizing line position with
  | nil => rfl
  | cons w ws ih => rw [tokens, List.length_cons, List.length_cons, ih]

theorem tokens_append {us : List Written} :
    tokens line position (ws ++ us) =
      tokens line position ws ++ tokens (line + breaks ws) (position + (chars ws).length) us := by
  induction ws generalizing line position with
  | nil => rfl
  | cons w ws ih =>
      rw [List.cons_append, tokens, tokens, ih, breaks_cons, chars_cons, List.length_append,
        List.cons_append, Nat.add_assoc, Nat.add_assoc]

theorem Laid.of_mem (h : Laid ws rest) (hw : w ∈ ws) :
    Layout w.gap ∧ Spells w.spelling w.lexeme := by
  induction h with
  | nil => cases hw
  | cons hgap hspells _ _ ih =>
      cases List.mem_cons.mp hw with
      | inl heq =>
          subst heq
          exact ⟨hgap, hspells⟩
      | inr hmem => exact ih hmem

theorem lexeme_tokens : (tokens line position ws).map Token.lexeme = ws.map Written.lexeme := by
  induction ws generalizing line position with
  | nil => rfl
  | cons w ws ih => rw [tokens, List.map_cons, List.map_cons, ih]

/-- Lexemes as they are written are read as their tokens. -/
theorem scan_laid (h : Laid ws rest) :
    scan line position (chars ws ++ rest) =
      (tokens line position ws ++ (scan (line + breaks ws) (position + (chars ws).length) rest).1,
        (scan (line + breaks ws) (position + (chars ws).length) rest).2) := by
  induction h generalizing line position with
  | nil rest => rfl
  | @cons w ws rest hgap hspells hends _ ih =>
      obtain ⟨c, u, hspelling, -⟩ := hspells.exists_cons
      rw [hspelling] at hspells
      have hpiece := piece_of_spells hspells hends
      rw [chars_cons, Written.chars, List.append_assoc, List.append_assoc, scan_layout hgap,
        hspelling, scan_token hpiece, ih, consToken, tokens, breaks_cons, Written.length_chars,
        hspelling]
      simp only [List.cons_append, List.length_append, Nat.add_assoc]

/-- Every text is a row of lexemes, layout, and an end or something that is no token. -/
theorem exists_laid (line : Nat) (cs : List Char) :
    ∃ ws gap rest stop, cs = chars ws ++ (gap ++ rest) ∧ Laid ws (gap ++ rest) ∧
      (Trailing gap ∧ rest = [] ∨ Layout gap ∧ rest ≠ []) ∧
        Stop (line + breaks ws + gap.count '\n') rest stop := by
  induction hn : cs.length using Nat.strong_induction_on generalizing line cs with
  | _ n ih =>
    obtain ⟨gap, rest, rfl, hgap⟩ := endsLayout cs
    cases hgap with
    | inl h =>
        obtain ⟨htrailing, rfl⟩ := h
        exact ⟨[], gap, [], none, rfl, .nil _, .inl ⟨htrailing, rfl⟩, .done⟩
    | inr h =>
        obtain ⟨hlayout, c, cs, rfl, hc⟩ := h
        cases @token_or_stop c cs hc with
        | inl htoken =>
            obtain ⟨lexeme, extra, hpiece⟩ := htoken
            obtain ⟨spelling, behind, htext, hlength, hspells, hends⟩ := piece_eq_token_iff.mp hpiece
            have hshorter : behind.length < n := by
              rw [← hn, List.length_append, htext, List.length_append]
              omega
            obtain ⟨ws, gap', rest, stop, rfl, hlaid, hend, hstop⟩ :=
              ih behind.length hshorter (line + gap.count '\n') behind rfl
            refine ⟨⟨gap, spelling, lexeme⟩ :: ws, gap', rest, stop, ?_,
              .cons hlayout hspells hends hlaid, hend, ?_⟩
            · rw [htext, chars_cons, Written.chars, List.append_assoc, List.append_assoc]
            · rwa [breaks_cons, ← Nat.add_assoc]
        | inr hstop =>
            obtain ⟨e, he⟩ := hstop (line + gap.count '\n')
            exact ⟨[], gap, c :: cs, some e, rfl, .nil _, .inr ⟨hlayout, by simp⟩, he⟩

/-- What is read of a row of lexemes that layout follows: its tokens, and why reading stops
there. -/
theorem scan_laid_layout {stop : Option LexError} (h : Laid ws (gap ++ rest))
    (hgap : Trailing gap ∧ rest = [] ∨ Layout gap ∧ rest ≠ [])
    (hstop : Stop (line + breaks ws + gap.count '\n') rest stop) :
    scan line position (chars ws ++ (gap ++ rest)) = (tokens line position ws, stop) := by
  have hbehind : ∀ place, scan (line + breaks ws) place (gap ++ rest) = ([], stop) := by
    intro place
    cases hgap with
    | inl hend =>
        obtain ⟨htrailing, rfl⟩ := hend
        cases hstop
        rw [List.append_nil, scan_trailing htrailing]
    | inr hmore => rw [scan_layout hmore.1, hstop.scan]
  rw [scan_laid h, hbehind, List.append_nil]

/-- A text is read to its end exactly when it is a row of lexemes with layout behind it. -/
theorem scan_eq_done_iff_laid {ts : List Token} :
    scan line position cs = (ts, none) ↔
      ∃ ws trail, cs = chars ws ++ trail ∧ Laid ws trail ∧ Trailing trail ∧
        ts = tokens line position ws := by
  constructor
  · intro h
    obtain ⟨ws, gap, rest, stop, rfl, hlaid, hgap, hstop⟩ := exists_laid line cs
    rw [scan_laid_layout hlaid hgap hstop] at h
    obtain ⟨rfl, rfl⟩ := Prod.mk.inj h
    cases hstop
    rw [List.append_nil] at hlaid
    cases hgap with
    | inl hend => exact ⟨ws, gap, by rw [List.append_nil], hlaid, hend.1, rfl⟩
    | inr hmore => exact absurd rfl hmore.2
  · intro h
    obtain ⟨ws, trail, rfl, hlaid, htrail, rfl⟩ := h
    rw [← List.append_nil trail] at hlaid ⊢
    exact scan_laid_layout hlaid (.inl ⟨htrail, rfl⟩) .done

end RecordMapper.Lexer
