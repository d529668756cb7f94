import RecordMapper.Proofs.Fragment.Lexing
import RecordMapper.Proofs.Text.Quotes

/-! # Quotes in fragments

A fragment without a backslash is cut outside of its quotes only: each of its texts closes every
quote that it opens and holds no question mark outside of them. -/

namespace RecordMapper.Fragment

open Text

/-! ## Quoted regions -/

section

variable {quote : Char} {body : List Char}

theorem quoteAfter_quote (h : quote = '\'' ∨ quote = '"') : quoteAfter none quote = some quote := by
  simp [quoteAfter, h.symm]

/-- A quoted region is closed at its end. -/
theorem quoteAtEnd_quoted (hquote : quote = '\'' ∨ quote = '"') (h : Quoted quote body) :
    quoteAtEnd (some quote) body = none := by
  induction h with
  | close => simp [quoteAfter]
  | other hc _ ih => simpa [quoteAfter, hc] using ih
  | doubled _ ih => simpa [quoteAfter, hquote.symm] using ih

/-- A quoted region shows nothing but its quotes. -/
theorem unquoted_quoted (hquote : quote = '\'' ∨ quote = '"') (h : Quoted quote body) :
    ∀ c ∈ unquoted (some quote) body, c = quote := by
  induction h with
  | close => simp [unquoted]
  | other hc _ ih => simpa [unquoted, hc] using ih
  | doubled _ ih => simpa [unquoted, quoteAfter_quote hquote] using ih

theorem closed_quoted (hquote : quote = '\'' ∨ quote = '"') (h : Quoted quote body) :
    Closed (· = '?') (quote :: body) := by
  have hopen := quoteAfter_quote hquote
  have hne : quote ≠ '?' := by rcases hquote with rfl | rfl <;> decide
  refine ⟨by rw [quoteAtEnd_cons, hopen, quoteAtEnd_quoted hquote h], fun c hc => ?_⟩
  rw [unquoted, hopen] at hc
  rcases List.mem_cons.mp hc with rfl | hc
  · exact hne
  · rwa [unquoted_quoted hquote h c hc]

end

/-! ## Tokens -/

/-- Plain characters are no quotes, no question marks and no backslashes. -/
theorem isPlain_iff {c : Char} :
    isPlain c = true ↔ c ≠ '?' ∧ isQuote c = false ∧ c ≠ '\\' := by
  simp only [isPlain, isQuote, Bool.and_eq_true, bne_iff_ne, ne_eq, decide_eq_false_iff_not]
  tauto

/-- A token other than a slot, where no backslash stands, is closed and hides its question marks. -/
theorem Form.closed {kind : FragmentTokenKind} {lexeme : List Char} (h : Form kind lexeme)
    (hb : '\\' ∉ lexeme) (hk : kind ≠ .slot) :
    content kind lexeme = lexeme ∧ Closed (· = '?') lexeme := by
  cases h with
  | escapedSlot => simp at hb
  | slot => exact absurd rfl hk
  | string hbody => exact ⟨rfl, closed_quoted (.inl rfl) hbody⟩
  | quotedName hbody => exact ⟨rfl, closed_quoted (.inr rfl) hbody⟩
  | plain _ hplain =>
      exact ⟨rfl, .of_no_quote (fun c hc => (isPlain_iff.mp (hplain c hc)).2.1)
        fun c hc => (isPlain_iff.mp (hplain c hc)).1⟩
  | backslash => simp at hb

theorem closed_of_lexes {place : Nat} {cs : List Char} {ts : List FragmentToken}
    (h : Lexes place cs (.ok ts)) (hb : '\\' ∉ cs) :
    ∀ t ∈ ts, t.kind ≠ .slot → Closed (· = '?') t.chars ∧ t.chars ⊆ cs := by
  generalize hr : (Except.ok ts : Except OpenQuote (List FragmentToken)) = r at h
  induction h generalizing ts with
  | done => cases hr; nofun
  | @token place kind lexeme cs _ htakes _ ih =>
      obtain ⟨us, rfl, rfl⟩ := Outcome.map_eq_ok_iff.mp hr.symm
      obtain ⟨hlexeme, hcs⟩ := not_or.mp (List.mem_append.not.mp hb)
      refine List.forall_mem_cons.mpr ⟨fun hk => ?_, fun u hu hk => ?_⟩
      · obtain ⟨hcontent, hclosed⟩ := htakes.form.closed hlexeme hk
        dsimp only
        rw [hcontent]
        exact ⟨hclosed, List.subset_append_left lexeme cs⟩
      · obtain ⟨hclosed, hsub⟩ := ih hcs rfl u hu hk
        exact ⟨hclosed, List.Subset.trans hsub (List.subset_append_right lexeme cs)⟩
  | stuck => cases hr

/-! ## Parts -/

theorem mem_consText {cs ds : List Char} {parts : List Part}
    (h : .text ds ∈ consText cs parts) :
    .text ds ∈ parts ∨ ds = cs ∨ ∃ more, .text more ∈ parts ∧ ds = cs ++ more := by
  unfold consText at h
  split at h
  · rename_i more rest
    rcases List.mem_cons.mp h with h | h
    · exact .inr (.inr ⟨more, by simp, by simpa using h⟩)
    · exact .inl (by simp [h])
  · rcases List.mem_cons.mp h with h | h
    · exact .inr (.inl (by simpa using h))
    · exact .inl h

/-- What holds of no text and of the characters of every token but the slots, and of two texts
together when it holds of each, holds of every text among the parts. -/
theorem join_texts {P : List Char → Prop} (happend : ∀ cs ds, P cs → P ds → P (cs ++ ds))
    {ts : List FragmentToken} (h : ∀ t ∈ ts, t.kind ≠ .slot → P t.chars) :
    ∀ cs, .text cs ∈ join ts → P cs := by
  induction ts with
  | nil => simp [join]
  | cons t ts ih =>
      have ih := ih fun u hu => h u (by simp [hu])
      intro cs hcs
      by_cases hk : t.kind = .slot
      · exact ih cs (by simpa [join, hk] using hcs)
      · have ht := h t (by simp) hk
        rw [join, if_neg hk] at hcs
        rcases mem_consText hcs with hcs | rfl | ⟨more, hmore, rfl⟩
        · exact ih cs hcs
        · exact ht
        · exact happend _ _ ht (ih more hmore)

/-- A text of a fragment without a backslash is closed, hides its question marks and is made up of
characters of the fragment. -/
theorem split_closed {raw : String} {parts : List Part} (h : split raw = .ok parts)
    (hb : '\\' ∉ raw.toList) {cs : List Char} (hcs : .text cs ∈ parts) :
    Closed (· = '?') cs ∧ cs ⊆ raw.toList := by
  obtain ⟨ts, hts, rfl⟩ := Outcome.map_eq_ok_iff.mp h
  refine join_texts (P := fun cs => Closed (· = '?') cs ∧ cs ⊆ raw.toList) ?_
    (closed_of_lexes (lexes_iff.mpr hts) hb) cs hcs
  rintro cs ds ⟨hc, hcsub⟩ ⟨hd, hdsub⟩
  exact ⟨hc.append hd, List.append_subset.mpr ⟨hcsub, hdsub⟩⟩

end RecordMapper.Fragment
