import RecordMapper.Proofs.Fragment.Closed
import RecordMapper.Proofs.Sql.Binding
import RecordMapper.Proofs.Text.Numerals

/-! # Reading placeholders

A store reads the placeholders of a statement outside of its quotes. They are numbered without a gap
exactly when the statement loses nothing that it binds and, where placeholders have numbers, none of
them stands right before a digit that was written by hand. -/

namespace RecordMapper

open Text

namespace Dialect

/-- The sign that a placeholder begins with. -/
def mark (d : Dialect) : Char := if d.isNumbered then '$' else '?'

/-- The digits at the beginning of a text, where placeholders have numbers. -/
def digitsAfter (d : Dialect) (cs : List Char) : List Char :=
  if d.isNumbered then cs.takeWhile Char.isDigit else []

/-- The placeholders that are read in a text, from left to right. -/
def placeholdersIn (d : Dialect) : List Char → List (List Char)
  | [] => []
  | c :: cs =>
    if c = d.mark then (c :: d.digitsAfter cs) :: placeholdersIn d cs else placeholdersIn d cs

/-- The placeholders that are read outside of quotes. -/
def placeholders (d : Dialect) (cs : List Char) : List (List Char) :=
  d.placeholdersIn (unquoted none cs)

/-- As many placeholders as `count`, in order, after as many as `bound`. -/
def numbered (d : Dialect) (bound count : Nat) : List (List Char) :=
  (List.range' (bound + 1) count).map fun i : Nat => d.placeholder i

theorem numbered_succ (d : Dialect) (bound count : Nat) :
    d.numbered bound (count + 1) =
      d.placeholder (bound + 1 : Nat) :: d.numbered (bound + 1) count := by
  simp [numbered, List.range'_succ]

@[simp] theorem length_numbered (d : Dialect) (bound count : Nat) :
    (d.numbered bound count).length = count := by
  simp [numbered]

/-- The sign that a placeholder begins with is one of two. -/
theorem mark_eq (d : Dialect) : d.mark = '$' ∨ d.mark = '?' := by
  cases h : d.isNumbered <;> simp [mark, h]

theorem isQuote_mark (d : Dialect) : isQuote d.mark = false := by
  rcases d.mark_eq with h | h <;> rw [h] <;> decide

theorem placeholdersIn_append {d : Dialect} {cs : List Char} (h : ∀ c ∈ cs, c ≠ d.mark)
    (ds : List Char) : d.placeholdersIn (cs ++ ds) = d.placeholdersIn ds := by
  induction cs with
  | nil => rfl
  | cons c cs ih =>
      rw [List.cons_append, placeholdersIn, if_neg (h c (by simp)),
        ih fun e he => h e (by simp [he])]

/-- What stands before closed text that hides the mark is not read. -/
theorem placeholders_append {d : Dialect} {cs : List Char} (h : Closed (· = d.mark) cs)
    (ds : List Char) : d.placeholders (cs ++ ds) = d.placeholders ds := by
  rw [placeholders, unquoted_append, h.quote, placeholdersIn_append h.notMem, placeholders]

/-- A placeholder is its mark and digits, and all digits after it are read with it. -/
theorem placeholder_digits (d : Dialect) (n : Nat) :
    ∃ digits, d.placeholder n = d.mark :: digits ∧ (∀ c ∈ digits, c.isDigit = true) ∧
      ∀ cs, d.digitsAfter (digits ++ cs) = digits ++ d.digitsAfter cs := by
  cases hnumbered : d.isNumbered with
  | true =>
      have hdigits : ∀ c ∈ numeral n, c.isDigit = true := fun c => isDigit_of_mem_numeral
      refine ⟨numeral n, by simp [placeholder, mark, hnumbered, intNumeral_natCast], hdigits, ?_⟩
      intro cs
      simp only [digitsAfter, hnumbered, if_true]
      exact List.takeWhile_append_of_pos hdigits
  | false => exact ⟨[], by simp [placeholder, mark, hnumbered], by simp, fun _ => rfl⟩

/-- A placeholder is read with the digits that stand after it. -/
theorem placeholders_placeholder (d : Dialect) (n : Nat) (cs : List Char) :
    d.placeholders (d.placeholder n ++ cs) =
      (d.placeholder n ++ d.digitsAfter (unquoted none cs)) :: d.placeholders cs := by
  obtain ⟨digits, heq, hdigits, hafter⟩ := d.placeholder_digits n
  have hquote : ∀ c ∈ d.placeholder n, isQuote c = false := by
    rw [heq, List.forall_mem_cons]
    refine ⟨d.isQuote_mark, fun c hc => ?_⟩
    have := hdigits c hc
    simp only [isQuote, decide_eq_false_iff_not]
    rintro (rfl | rfl) <;> revert this <;> decide
  have hmark : ∀ c ∈ digits, c ≠ d.mark := by
    rintro c hc rfl
    have hdigit := hdigits _ hc
    rcases d.mark_eq with h | h <;> rw [h] at hdigit <;> revert hdigit <;> decide
  rw [placeholders, unquoted_append, unquoted_of_no_quote hquote, quoteAtEnd_of_no_quote hquote,
    heq, List.cons_append, placeholdersIn, if_pos rfl, hafter, placeholdersIn_append hmark]
  rfl

/-! ## Quoted names -/

theorem quoteAtEnd_doubled (cs : List Char) : quoteAtEnd (some '"') (doubled cs) = some '"' := by
  induction cs with
  | nil => rfl
  | cons c cs ih =>
      rw [doubled]
      split
      · simpa [quoteAfter] using ih
      · rename_i hc
        simpa [quoteAfter, hc] using ih

theorem unquoted_doubled (cs : List Char) : ∀ c ∈ unquoted (some '"') (doubled cs), c = '"' := by
  induction cs with
  | nil => simp [doubled, unquoted]
  | cons c cs ih =>
      rw [doubled]
      split
      · simpa [unquoted, quoteAfter] using ih
      · rename_i hc
        simpa [unquoted, hc] using ih

/-- A quoted name is closed and shows nothing but its quotes. -/
theorem quote_closed (d : Dialect) (identifier : List Char) :
    Closed (· = d.mark) (quote identifier) := by
  have hopen : quoteAfter none '"' = some '"' := by decide
  constructor
  · simp [quote, quoteAtEnd_doubled, quoteAfter]
  · have hmark : '"' ≠ d.mark := by
      rcases d.mark_eq with h | h <;> rw [h] <;> decide
    intro c hc
    rw [quote, List.cons_append, unquoted, hopen, unquoted_append, quoteAtEnd_doubled] at hc
    simp only [unquoted, if_true, List.mem_cons, List.mem_append, List.not_mem_nil, or_false] at hc
    rcases hc with rfl | hc | rfl
    · exact hmark
    · rw [unquoted_doubled identifier c hc]
      exact hmark
    · exact hmark

end Dialect

namespace Piece

variable {d : Dialect} {ps : List Piece}

/-! ## Pieces -/

/-- A piece that a reader of placeholders passes over, if it is no slot. A word does not begin with
a digit. -/
def Legible (d : Dialect) : Piece → Prop
  | .word s => Closed (· = d.mark) s.toList ∧ ∃ c cs, s.toList = c :: cs ∧ c.isDigit = false
  | .raw cs => Closed (· = d.mark) cs
  | _ => True

/-- A word that begins with no digit and holds no quote and no mark. -/
def isPlainWord (s : String) : Bool :=
  match s.toList with
  | [] => false
  | c :: cs => !c.isDigit && (c :: cs).all fun c => !isQuote c && c != '?' && c != '$'

theorem isPlainWord_of_mem_vocabulary : ∀ s ∈ vocabulary, isPlainWord s = true := by
  decide

theorem legible_word {s : String} (h : isPlainWord s = true) : (word s).Legible d := by
  unfold isPlainWord at h
  split at h
  · simp at h
  · rename_i c cs hs
    simp only [Bool.and_eq_true, Bool.not_eq_true', List.all_eq_true, bne_iff_ne] at h
    obtain ⟨hdigit, hplain⟩ := h
    rw [Legible, hs]
    refine ⟨.of_no_quote (fun c hc => (hplain c hc).1.1) fun c hc => ?_, c, cs, rfl, hdigit⟩
    rcases d.mark_eq with h | h
    · exact h ▸ (hplain c hc).2
    · exact h ▸ (hplain c hc).1.2

/-- Words of the vocabulary are legible, and so are fragments without backslashes and dollar
signs. -/
theorem IsOf.legible {written : String → Prop}
    (hw : ∀ raw, written raw → '\\' ∉ raw.toList ∧ '$' ∉ raw.toList) {p : Piece}
    (h : p.IsOf written) : p.Legible d := by
  cases h with
  | word hs => exact legible_word (isPlainWord_of_mem_vocabulary _ hs)
  | raw ht hsplit hcs =>
      obtain ⟨hb, hd⟩ := hw _ ht
      obtain ⟨hclosed, hsub⟩ := Fragment.split_closed hsplit hb hcs
      refine ⟨hclosed.quote, fun c hc heq => ?_⟩
      rcases d.mark_eq with h | h
      · exact hd (hsub (mem_of_mem_unquoted (h ▸ heq ▸ hc)))
      · exact hclosed.notMem c hc (heq.trans h)
  | _ => trivial

/-- No more placeholders are read than values are bound, and fewer where a value is bound without a
place. -/
theorem length_placeholders (h : ∀ p ∈ ps, p.Legible d) (bound : Nat) :
    (d.placeholders (render d bound ps)).length ≤ (parameters ps).length ∧
      (Loses ps → (d.placeholders (render d bound ps)).length < (parameters ps).length) := by
  induction ps generalizing bound with
  | nil => simp [render, parameters, Dialect.placeholders, Dialect.placeholdersIn, unquoted]
  | cons p ps ih =>
      rw [List.forall_mem_cons] at h
      obtain ⟨hp, hps⟩ := h
      cases p with
      | word s =>
          simpa [render, parameters, Dialect.placeholders_append hp.1] using ih hps bound
      | raw cs =>
          simpa [render, parameters, Dialect.placeholders_append hp] using ih hps bound
      | name s =>
          simpa [render, parameters, Dialect.placeholders_append (d.quote_closed _)] using
            ih hps bound
      | slot p =>
          rw [render, Dialect.placeholders_placeholder]
          simpa [parameters] using ih hps (bound + 1)
      | unplaced p =>
          -- it counts as bound and leaves nothing in the text, so the bound is strict from here
          obtain ⟨hle, -⟩ := ih hps (bound + 1)
          simp only [render, parameters, List.length_cons, loses_unplaced, true_implies]
          omega

theorem infix_cons_iff_of_ne {c : Cell} (h : c ≠ .place) (cs : List Cell) :
    [.place, .digit] <:+: c :: cs ↔ [.place, .digit] <:+: cs := by
  rw [List.infix_cons_iff]
  simp [h.symm]

theorem place_prefix_iff (cs : List Cell) :
    [.place, .digit] <+: .place :: cs ↔ cs.head? = some .digit := by
  cases cs <;> simp [eq_comm]

theorem infix_map_ofChar_append_iff (cs : List Char) (ds : List Cell) :
    [.place, .digit] <:+: cs.map Cell.ofChar ++ ds ↔ [.place, .digit] <:+: ds := by
  induction cs with
  | nil => rfl
  | cons c cs ih =>
      rw [List.map_cons, List.cons_append, infix_cons_iff_of_ne, ih]
      unfold Cell.ofChar
      split <;> decide

/-- Digits are read with a placeholder exactly when its number is followed by a digit that was
written by hand. -/
theorem digitsAfter_render (h : ∀ p ∈ ps, p.Legible d) (hl : ¬ Loses ps) (bound : Nat) :
    d.digitsAfter (unquoted none (render d bound ps)) = [] ↔
      (d.isNumbered = true → (layout ps).head? ≠ some .digit) := by
  cases hnumbered : d.isNumbered with
  | true =>
      induction ps with
      | nil => simp [render, unquoted, Dialect.digitsAfter]
      | cons p ps ih =>
          rw [List.forall_mem_cons] at h
          obtain ⟨hp, hps⟩ := h
          cases p with
          | word s =>
              obtain ⟨-, c, cs, hs, hc⟩ := hp
              simp [render, hs, unquoted, Dialect.digitsAfter, hnumbered, cells, hc]
          | raw cs =>
              rw [loses_raw] at hl
              cases cs with
              | nil => simpa [render, cells] using ih hps hl
              | cons c cs =>
                  simp only [render, List.cons_append, unquoted, Dialect.digitsAfter, hnumbered,
                    if_true, List.takeWhile_cons, layout_cons, cells, List.map_cons, Cell.ofChar]
                  split <;> simp
          | name s =>
              have hquote : Char.isDigit '"' = false := by decide
              simp [render, Dialect.quote, unquoted, Dialect.digitsAfter, hnumbered, cells, hquote]
          | slot p =>
              have hmark : Char.isDigit '$' = false := by decide
              simp [render, Dialect.placeholder, unquoted, Dialect.digitsAfter, hnumbered, cells,
                hmark]
          | unplaced p => simp at hl
  | false => simp [Dialect.digitsAfter, hnumbered]

/-- The placeholders of pieces that lose nothing are numbered without a gap exactly when no number
is followed by a digit that was written by hand. -/
theorem placeholders_render (h : ∀ p ∈ ps, p.Legible d) (hl : ¬ Loses ps) (bound : Nat) :
    d.placeholders (render d bound ps) = d.numbered bound (parameters ps).length ↔
      (d.isNumbered = true → ¬ [.place, .digit] <:+: layout ps) := by
  induction ps generalizing bound with
  | nil =>
      simp [render, parameters, Dialect.placeholders, Dialect.placeholdersIn, unquoted,
        Dialect.numbered]
  | cons p ps ih =>
      rw [List.forall_mem_cons] at h
      obtain ⟨hp, hps⟩ := h
      cases p with
      | word s =>
          rw [loses_word] at hl
          simpa [render, parameters, cells, Dialect.placeholders_append hp.1,
            infix_cons_iff_of_ne] using ih hps hl bound
      | raw cs =>
          rw [loses_raw] at hl
          simpa [render, parameters, cells, Dialect.placeholders_append hp,
            infix_map_ofChar_append_iff] using ih hps hl bound
      | name s =>
          rw [loses_name] at hl
          simpa [render, parameters, cells, Dialect.placeholders_append (d.quote_closed _),
            infix_cons_iff_of_ne] using ih hps hl bound
      | slot p =>
          rw [loses_slot] at hl
          simp only [render, parameters, List.length_cons, Dialect.placeholders_placeholder,
            Dialect.numbered_succ, List.cons.injEq, List.append_right_eq_self,
            digitsAfter_render hps hl, ih hps hl, layout_cons, cells, List.cons_append,
            List.nil_append]
          rw [List.infix_cons_iff, place_prefix_iff, not_or, imp_and]
      | unplaced p => simp at hl

/-- The placeholders of pieces are numbered without a gap exactly when the pieces lose nothing and
no number is followed by a digit that was written by hand. -/
theorem placeholders_eq_numbered_iff (h : ∀ p ∈ ps, p.Legible d) (bound : Nat) :
    d.placeholders (render d bound ps) = d.numbered bound (parameters ps).length ↔
      ¬ Loses ps ∧ (d.isNumbered = true → ¬ [.place, .digit] <:+: layout ps) := by
  by_cases hl : Loses ps
  · have hlt := (length_placeholders h bound).2 hl
    refine iff_of_false (fun heq => ?_) fun h => h.1 hl
    rw [heq, Dialect.length_numbered] at hlt
    exact absurd hlt (Nat.lt_irrefl _)
  · simp [placeholders_render h hl, hl]

end Piece

end RecordMapper
