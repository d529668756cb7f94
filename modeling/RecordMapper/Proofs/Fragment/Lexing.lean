import Mathlib.Data.List.Infix
import RecordMapper.Fragment
import RecordMapper.Proofs.Outcome

/-! # The tokens of fragments

A token has one of five forms. They are tried in order, and the first one that something in front of
the text has is taken, as long as it can be. None of this mentions the reader of tokens, which
closes a quoted region in a single pass and never goes back. -/

namespace RecordMapper.Fragment

/-! ## Forms -/

/-- What follows an opening quote: other characters and quotes written twice up to the closing
one. -/
inductive Quoted (quote : Char) : List Char → Prop where
  | close : Quoted quote [quote]
  | other {c : Char} {cs : List Char} : c ≠ quote → Quoted quote cs → Quoted quote (c :: cs)
  | doubled {cs : List Char} : Quoted quote cs → Quoted quote (quote :: quote :: cs)

/-- The characters that make a token. -/
inductive Form : FragmentTokenKind → List Char → Prop where
  | escapedSlot : Form .escapedSlot ['\\', '?']
  | slot : Form .slot ['?']
  | string {body : List Char} : Quoted '\'' body → Form .string ('\'' :: body)
  | quotedName {body : List Char} : Quoted '"' body → Form .quotedName ('"' :: body)
  | plain {cs : List Char} : cs ≠ [] → (∀ c ∈ cs, isPlain c = true) → Form .text cs
  | backslash : Form .text ['\\']

/-- The order in which the forms are tried. -/
def tried : List FragmentTokenKind := [.escapedSlot, .slot, .string, .quotedName, .text]

/-- The token in front of a text: of the first form that is there, and the longest of that form. -/
structure Takes (cs : List Char) (kind : FragmentTokenKind) (lexeme : List Char) : Prop where
  isPrefix : lexeme <+: cs
  form : Form kind lexeme
  longest : ∀ other, other <+: cs → Form kind other → other.length ≤ lexeme.length
  first : ∃ before after, tried = before ++ kind :: after ∧
    ∀ k ∈ before, ∀ other, other <+: cs → ¬ Form k other

/-- What a token holds: an escaped question mark loses its backslash. -/
def content (kind : FragmentTokenKind) (lexeme : List Char) : List Char :=
  if kind = .escapedSlot then ['?'] else lexeme

/-- The tokens of a text from a place on, or the error for the first character with which no token
begins. -/
inductive Lexes : Nat → List Char → Except OpenQuote (List FragmentToken) → Prop where
  | done (place : Nat) : Lexes place [] (.ok [])
  | token {place : Nat} {kind : FragmentTokenKind} {lexeme cs : List Char}
      {r : Except OpenQuote (List FragmentToken)} : Takes (lexeme ++ cs) kind lexeme →
      Lexes (place + lexeme.length) cs r →
      Lexes place (lexeme ++ cs) (r.map (⟨kind, content kind lexeme, place⟩ :: ·))
  | stuck {place : Nat} {c : Char} {cs : List Char} :
      (∀ kind lexeme, lexeme <+: c :: cs → ¬ Form kind lexeme) →
      Lexes place (c :: cs) (.error ⟨c, place⟩)

theorem Form.ne_nil {kind : FragmentTokenKind} {lexeme : List Char} (h : Form kind lexeme) :
    lexeme ≠ [] := by
  cases h with
  | plain h _ => exact h
  | _ => exact List.cons_ne_nil _ _

/-! ## At most one reading -/

theorem Takes.unique {cs lexeme lexeme' : List Char} {kind kind' : FragmentTokenKind}
    (h : Takes cs kind lexeme) (h' : Takes cs kind' lexeme') : kind = kind' ∧ lexeme = lexeme' := by
  obtain ⟨before, after, heq, hfirst⟩ := h.first
  obtain ⟨before', after', heq', hfirst'⟩ := h'.first
  have hkind : kind = kind' := by
    -- Of two different kinds one would stand before the other in the order.
    rcases List.append_eq_append_iff.mp (heq.symm.trans heq') with
      ⟨mid, hbefore, hrest⟩ | ⟨mid, hbefore, hrest⟩
    · cases mid with
      | nil => exact (List.cons.inj hrest).1
      | cons k mid =>
          obtain ⟨rfl, -⟩ := List.cons.inj hrest
          exact absurd h.form (hfirst' kind (by simp [hbefore]) lexeme h.isPrefix)
    · cases mid with
      | nil => exact (List.cons.inj hrest).1.symm
      | cons k mid =>
          obtain ⟨rfl, -⟩ := List.cons.inj hrest
          exact absurd h'.form (hfirst kind' (by simp [hbefore]) lexeme' h'.isPrefix)
  subst hkind
  refine ⟨rfl, List.IsPrefix.eq_of_length ?_ ?_⟩
  · exact List.prefix_of_prefix_length_le h.isPrefix h'.isPrefix
      (h'.longest lexeme h.isPrefix h.form)
  · exact Nat.le_antisymm (h'.longest lexeme h.isPrefix h.form)
      (h.longest lexeme' h'.isPrefix h'.form)

theorem Lexes.unique {place : Nat} {cs : List Char} {r r' : Except OpenQuote (List FragmentToken)}
    (h : Lexes place cs r) (h' : Lexes place cs r') : r = r' := by
  induction h generalizing r' with
  | done place =>
      generalize hcs : ([] : List Char) = cs at h'
      cases h' with
      | done => rfl
      | token htakes => exact absurd (List.append_eq_nil_iff.mp hcs.symm).1 htakes.form.ne_nil
      | stuck => cases hcs
  | @token place kind lexeme cs r htakes _ ih =>
      generalize hcs : lexeme ++ cs = text at h'
      cases h' with
      | done => exact absurd (List.append_eq_nil_iff.mp hcs).1 htakes.form.ne_nil
      | @token _ kind' lexeme' cs' r' htakes' hrest =>
          obtain ⟨rfl, rfl⟩ := htakes.unique (hcs ▸ htakes')
          obtain rfl := List.append_cancel_left hcs
          rw [ih hrest]
      | stuck hnone => exact absurd htakes.form (hnone kind lexeme (hcs ▸ htakes.isPrefix))
  | @stuck place c cs hnone =>
      generalize hcs : c :: cs = text at h'
      cases h' with
      | done => cases hcs
      | @token _ kind' lexeme' _ _ htakes' =>
          exact absurd htakes'.form (hnone kind' lexeme' (hcs ▸ htakes'.isPrefix))
      | stuck =>
          obtain ⟨rfl, rfl⟩ := List.cons.inj hcs
          rfl

/-! ## Quoted regions -/

section

variable {quote : Char} {body rest : List Char}

theorem Quoted.mem (h : Quoted quote body) : quote ∈ body := by
  induction h with
  | close => exact List.mem_cons_self
  | other _ _ ih => exact List.mem_cons_of_mem _ ih
  | doubled _ _ => exact List.mem_cons_self

/-- A quoted region is as long as it can be when no quote follows it, or only one that is never
closed. -/
theorem Quoted.length_le (h : Quoted quote body)
    (hrest : rest.head? ≠ some quote ∨ ∃ back, rest = quote :: back ∧ quote ∉ back)
    {other : List Char} (hother : Quoted quote other) (hpre : other <+: body ++ rest) :
    other.length ≤ body.length := by
  induction h generalizing other with
  | close =>
      cases hother with
      | close => exact Nat.le_refl _
      | other hc _ => exact absurd (List.cons_prefix_cons.mp hpre).1 hc
      | @doubled cs hcs =>
          -- A second quote would be the one behind the region, and nothing closes that one.
          obtain ⟨-, hpre⟩ := List.cons_prefix_cons.mp hpre
          rcases hrest with hhead | ⟨back, rfl, hback⟩
          · cases rest with
            | nil => exact absurd (List.prefix_nil.mp hpre) (List.cons_ne_nil _ _)
            | cons d ds => exact absurd (congrArg some (List.cons_prefix_cons.mp hpre).1.symm) hhead
          · exact absurd ((List.cons_prefix_cons.mp hpre).2.subset hcs.mem) hback
  | other hc _ ih =>
      cases hother with
      | close => exact absurd (List.cons_prefix_cons.mp hpre).1.symm hc
      | other _ hcs => exact Nat.succ_le_succ (ih hcs (List.cons_prefix_cons.mp hpre).2)
      | doubled => exact absurd (List.cons_prefix_cons.mp hpre).1.symm hc
  | @doubled cs _ ih =>
      cases hother with
      | close => simp
      | other hc _ => exact absurd (List.cons_prefix_cons.mp hpre).1 hc
      | doubled hcs =>
          have htail := (List.cons_prefix_cons.mp (List.cons_prefix_cons.mp hpre).2).2
          exact Nat.succ_le_succ (Nat.succ_le_succ (ih hcs htail))

/-- A quote that stands somewhere behind an opening one closes a region. -/
theorem exists_quoted {cs : List Char} (h : quote ∈ cs) : ∃ body, body <+: cs ∧ Quoted quote body := by
  induction cs with
  | nil => cases h
  | cons c cs ih =>
      by_cases hc : c = quote
      · subst hc
        exact ⟨[c], List.cons_prefix_cons.mpr ⟨rfl, List.nil_prefix⟩, .close⟩
      · obtain ⟨body, hpre, hbody⟩ := ih (List.mem_of_ne_of_mem (Ne.symm hc) h)
        exact ⟨c :: body, List.cons_prefix_cons.mpr ⟨rfl, hpre⟩, .other hc hbody⟩

/-- A region that is closed is read up to the last quote that can close it. -/
theorem quoted_of_quotedBody {start place : Nat} {cs : List Char}
    (h : quotedBody quote start place cs = .ok body) :
    Quoted quote body ∧ ∃ rest, cs = body ++ rest ∧ rest.head? ≠ some quote := by
  fun_induction quotedBody quote start place cs generalizing body with
  | case1 => cases h
  | case2 => cases h; exact ⟨.close, [], rfl, by simp⟩
  | case3 => cases h
  | case4 start place cs ih =>
      obtain ⟨inner, hinner, rfl⟩ := Outcome.map_eq_ok_iff.mp h
      obtain ⟨hquoted, rest, rfl, hrest⟩ := ih hinner
      exact ⟨.doubled hquoted, rest, rfl, hrest⟩
  | case5 start place d cs hd =>
      cases h
      exact ⟨.close, d :: cs, rfl, by simpa using hd⟩
  | case6 start place c d cs hc ih =>
      obtain ⟨inner, hinner, rfl⟩ := Outcome.map_eq_ok_iff.mp h
      obtain ⟨hquoted, rest, heq, hrest⟩ := ih hinner
      exact ⟨.other hc hquoted, rest, by rw [heq]; rfl, hrest⟩

/-- A region is not closed when the quote does not come again, or when the last region that can be
closed is followed by a quote that does not. -/
theorem error_of_quotedBody {start place : Nat} {cs : List Char} {e : OpenQuote}
    (h : quotedBody quote start place cs = .error e) :
    (quote ∉ cs ∧ e = ⟨quote, start⟩) ∨
      ∃ body back, Quoted quote body ∧ cs = body ++ quote :: back ∧ quote ∉ back ∧
        e = ⟨quote, place + body.length⟩ := by
  fun_induction quotedBody quote start place cs with
  | case1 => cases h; exact .inl ⟨List.not_mem_nil, rfl⟩
  | case2 => cases h
  | case3 start place c hc =>
      cases h
      exact .inl ⟨by simpa using Ne.symm hc, rfl⟩
  | case4 start place cs ih =>
      have hinner := Outcome.map_eq_error_iff.mp h
      rcases ih hinner with ⟨hnot, rfl⟩ | ⟨body, back, hbody, rfl, hback, rfl⟩
      · exact .inr ⟨[quote], cs, .close, rfl, hnot, rfl⟩
      · refine .inr ⟨quote :: quote :: body, back, .doubled hbody, rfl, hback, ?_⟩
        simp only [List.length_cons, OpenQuote.mk.injEq, true_and]
        omega
  | case5 => cases h
  | case6 start place c d cs hc ih =>
      have hinner := Outcome.map_eq_error_iff.mp h
      rcases ih hinner with ⟨hnot, rfl⟩ | ⟨body, back, hbody, heq, hback, rfl⟩
      · exact .inl ⟨by simpa [Ne.symm hc] using hnot, rfl⟩
      · refine .inr ⟨c :: body, back, .other hc hbody, by rw [heq]; rfl, hback, ?_⟩
        simp only [List.length_cons, OpenQuote.mk.injEq, true_and]
        omega

end

/-! ## The reading -/

/-- A form in front of a text goes by the first character. -/
theorem Form.cases_of_prefix {kind : FragmentTokenKind} {c : Char} {cs lexeme : List Char}
    (h : Form kind lexeme) (hpre : lexeme <+: c :: cs) :
    (kind = .escapedSlot ∧ c = '\\' ∧ ['?'] <+: cs) ∨
      (kind = .slot ∧ c = '?' ∧ lexeme = ['?']) ∨
      (∃ body, kind = .string ∧ c = '\'' ∧ lexeme = c :: body ∧ body <+: cs ∧ Quoted c body) ∨
      (∃ body, kind = .quotedName ∧ c = '"' ∧ lexeme = c :: body ∧ body <+: cs ∧ Quoted c body) ∨
      (kind = .text ∧ isPlain c = true ∧ ∀ d ∈ lexeme, isPlain d = true) ∨
      (kind = .text ∧ c = '\\' ∧ lexeme = ['\\']) := by
  cases h with
  | escapedSlot =>
      obtain ⟨rfl, htail⟩ := List.cons_prefix_cons.mp hpre
      exact .inl ⟨rfl, rfl, htail⟩
  | slot =>
      obtain ⟨rfl, -⟩ := List.cons_prefix_cons.mp hpre
      exact .inr (.inl ⟨rfl, rfl, rfl⟩)
  | string hbody =>
      obtain ⟨rfl, htail⟩ := List.cons_prefix_cons.mp hpre
      exact .inr (.inr (.inl ⟨_, rfl, rfl, rfl, htail, hbody⟩))
  | quotedName hbody =>
      obtain ⟨rfl, htail⟩ := List.cons_prefix_cons.mp hpre
      exact .inr (.inr (.inr (.inl ⟨_, rfl, rfl, rfl, htail, hbody⟩)))
  | plain hne hplain =>
      obtain ⟨d, ds, rfl⟩ := List.exists_cons_of_ne_nil hne
      obtain ⟨rfl, -⟩ := List.cons_prefix_cons.mp hpre
      exact .inr (.inr (.inr (.inr (.inl ⟨rfl, hplain _ List.mem_cons_self, hplain⟩))))
  | backslash =>
      obtain ⟨rfl, -⟩ := List.cons_prefix_cons.mp hpre
      exact .inr (.inr (.inr (.inr (.inr ⟨rfl, rfl, rfl⟩))))

theorem takes_slot (cs : List Char) : Takes ('?' :: cs) .slot ['?'] where
  isPrefix := List.cons_prefix_cons.mpr ⟨rfl, List.nil_prefix⟩
  form := .slot
  longest other hpre h := by cases h; exact Nat.le_refl _
  first := by
    refine ⟨[.escapedSlot], [.string, .quotedName, .text], rfl, fun k hk other hpre h => ?_⟩
    obtain rfl := List.mem_singleton.mp hk
    have hcases := h.cases_of_prefix hpre
    simp at hcases

theorem takes_escapedSlot (cs : List Char) : Takes ('\\' :: '?' :: cs) .escapedSlot ['\\', '?'] where
  isPrefix := ⟨cs, rfl⟩
  form := .escapedSlot
  longest other hpre h := by cases h; exact Nat.le_refl _
  first := ⟨[], _, rfl, nofun⟩

theorem takes_backslash {cs : List Char} (h : cs.head? ≠ some '?') :
    Takes ('\\' :: cs) .text ['\\'] where
  isPrefix := List.cons_prefix_cons.mpr ⟨rfl, List.nil_prefix⟩
  form := .backslash
  longest other hpre hother := by
    have hcases := hother.cases_of_prefix hpre
    simp only [isPlain, bne_self_eq_false, Bool.and_false, reduceCtorEq, Char.reduceEq, false_and,
      and_false, exists_false, false_or, true_and] at hcases
    rw [hcases]
  first := by
    refine ⟨[.escapedSlot, .slot, .string, .quotedName], [], rfl, fun k hk other hpre hother => ?_⟩
    have hcases := hother.cases_of_prefix hpre
    have hhead : ¬ ['?'] <+: cs := by
      rintro ⟨rest, rfl⟩
      exact h rfl
    simp only [List.mem_cons, List.not_mem_nil, or_false] at hk
    rcases hk with rfl | rfl | rfl | rfl <;> simp [hhead] at hcases

theorem takes_plain {c : Char} (hc : isPlain c = true) (cs : List Char) :
    Takes (c :: cs) .text (c :: cs.takeWhile isPlain) where
  isPrefix := List.cons_prefix_cons.mpr ⟨rfl, List.takeWhile_prefix isPlain⟩
  form := by
    refine .plain (List.cons_ne_nil _ _) (List.forall_mem_cons.mpr ⟨hc, fun d hd => ?_⟩)
    exact List.all_eq_true.mp List.all_takeWhile d hd
  longest other hpre hother := by
    rcases hother.cases_of_prefix hpre with h | h | ⟨_, h, -⟩ | ⟨_, h, -⟩ | ⟨-, -, hplain⟩ |
      ⟨-, rfl, -⟩
    · exact absurd h.1 (by simp)
    · exact absurd h.1 (by simp)
    · exact absurd h (by simp)
    · exact absurd h (by simp)
    · obtain ⟨rest, heq⟩ := hpre
      have hlength : (c :: cs.takeWhile isPlain) = (c :: cs).takeWhile isPlain :=
        (List.takeWhile_cons_of_pos hc).symm
      rw [hlength, ← heq, List.takeWhile_append_of_pos hplain, List.length_append]
      exact Nat.le_add_right _ _
    · cases hc
  first := by
    refine ⟨[.escapedSlot, .slot, .string, .quotedName], [], rfl, fun k hk other hpre hother => ?_⟩
    have hcases := hother.cases_of_prefix hpre
    have hne : c ≠ '?' ∧ c ≠ '\'' ∧ c ≠ '"' ∧ c ≠ '\\' := by
      simpa [isPlain, and_assoc] using hc
    simp only [List.mem_cons, List.not_mem_nil, or_false] at hk
    rcases hk with rfl | rfl | rfl | rfl <;> simp [hne] at hcases

/-- The kind of a quoted region goes by its quote. -/
def quotedKind (quote : Char) : FragmentTokenKind := if quote = '\'' then .string else .quotedName

/-- A quoted region is taken when no quote follows it, or only one that is never closed. -/
theorem takes_quoted {quote : Char} (hquote : quote = '\'' ∨ quote = '"') {body rest : List Char}
    (h : Quoted quote body)
    (hrest : rest.head? ≠ some quote ∨ ∃ back, rest = quote :: back ∧ quote ∉ back) :
    Takes (quote :: (body ++ rest)) (quotedKind quote) (quote :: body) where
  isPrefix := List.cons_prefix_cons.mpr ⟨rfl, List.prefix_append body rest⟩
  form := by
    rcases hquote with rfl | rfl
    · exact .string h
    · exact .quotedName h
  longest other hpre hother := by
    have hregion : ∃ inner, other = quote :: inner ∧ inner <+: body ++ rest ∧ Quoted quote inner := by
      have hcases := hother.cases_of_prefix hpre
      rcases hquote with rfl | rfl <;> simpa [quotedKind, isPlain] using hcases
    obtain ⟨inner, rfl, hinner, hquoted⟩ := hregion
    exact Nat.succ_le_succ (h.length_le hrest hquoted hinner)
  first := by
    rcases hquote with rfl | rfl
    · refine ⟨[.escapedSlot, .slot], [.quotedName, .text], rfl, fun k hk other hpre hother => ?_⟩
      have hcases := hother.cases_of_prefix hpre
      simp only [List.mem_cons, List.not_mem_nil, or_false] at hk
      rcases hk with rfl | rfl <;> simp at hcases
    · refine ⟨[.escapedSlot, .slot, .string], [.text], rfl, fun k hk other hpre hother => ?_⟩
      have hcases := hother.cases_of_prefix hpre
      simp only [List.mem_cons, List.not_mem_nil, or_false] at hk
      rcases hk with rfl | rfl | rfl <;> simp at hcases

/-- What the reader takes from the front of a text is the token there. -/
theorem takes_of_front {place : Nat} {c : Char} {cs : List Char} {t : FragmentToken} {extra : Nat}
    (h : front place c cs = .ok (t, extra)) :
    ∃ kind lexeme, c :: cs = lexeme ++ cs.drop extra ∧ lexeme.length = extra + 1 ∧
      Takes (c :: cs) kind lexeme ∧ t = ⟨kind, content kind lexeme, place⟩ := by
  unfold front at h
  split at h
  · rename_i hc
    cases h
    subst hc
    exact ⟨.slot, ['?'], rfl, rfl, takes_slot cs, rfl⟩
  · split at h
    · rename_i hquote
      obtain ⟨body, hbody, heq⟩ := Outcome.bind_eq_ok_iff.mp h
      cases Outcome.pure_eq_ok_iff.mp heq
      obtain ⟨hquoted, rest, rfl, hrest⟩ := quoted_of_quotedBody hbody
      refine ⟨quotedKind c, c :: body, by simp, rfl, takes_quoted hquote hquoted (.inl hrest), ?_⟩
      have hkind : quotedKind c ≠ .escapedSlot := by
        unfold quotedKind
        split <;> simp
      rw [content, if_neg hkind]
      rfl
    · split at h
      · rename_i hc
        subst hc
        split at h
        · rename_i hhead
          cases h
          obtain ⟨ds, rfl⟩ : ∃ ds, cs = '?' :: ds := by
            cases cs with
            | nil => cases hhead
            | cons d ds => exact ⟨ds, by rw [Option.some.inj hhead]⟩
          exact ⟨.escapedSlot, ['\\', '?'], rfl, rfl, takes_escapedSlot ds, rfl⟩
        · rename_i hhead
          cases h
          exact ⟨.text, ['\\'], rfl, rfl, takes_backslash hhead, rfl⟩
      · rename_i hslot hquote hbackslash
        cases h
        have hc : isPlain c = true := by
          simp_all [isPlain]
        refine ⟨.text, c :: cs.takeWhile isPlain, ?_, rfl, takes_plain hc cs, rfl⟩
        have hdrop : cs.drop (cs.takeWhile isPlain).length = cs.dropWhile isPlain := by
          have hleft := @List.drop_left _ (cs.takeWhile isPlain) (cs.dropWhile isPlain)
          rwa [List.takeWhile_append_dropWhile] at hleft
        rw [hdrop, List.cons_append, List.takeWhile_append_dropWhile]

/-- No token begins with a quote that is never closed. -/
theorem lexes_stuck {quote : Char} (hquote : quote = '\'' ∨ quote = '"') {back : List Char}
    (hback : quote ∉ back) (place : Nat) :
    Lexes place (quote :: back) (.error ⟨quote, place⟩) := by
  refine .stuck fun kind lexeme hpre hform => ?_
  have hregion : ∃ body, body <+: back ∧ Quoted quote body := by
    have hcases := hform.cases_of_prefix hpre
    rcases hquote with rfl | rfl
    · grind [isPlain]
    · grind [isPlain]
  obtain ⟨body, hbody, hquoted⟩ := hregion
  exact hback (hbody.subset hquoted.mem)

/-- Where the reader takes nothing, no token begins, or the token there is followed by a quote with
which none begins. -/
theorem lexes_of_front_error {place : Nat} {c : Char} {cs : List Char} {e : OpenQuote}
    (h : front place c cs = .error e) : Lexes place (c :: cs) (.error e) := by
  unfold front at h
  split at h
  · cases h
  · split at h
    · rename_i hquote
      cases hbody : quotedBody c place (place + 1) cs with
      | ok body =>
          rw [hbody] at h
          cases h
      | error d =>
          rw [hbody] at h
          cases h
          rcases error_of_quotedBody hbody with ⟨hnot, rfl⟩ | ⟨body, back, hquoted, rfl, hback, rfl⟩
          · exact lexes_stuck hquote hnot place
          · have htakes := takes_quoted hquote hquoted (.inr ⟨back, rfl, hback⟩)
            have hplace : place + (c :: body).length = place + 1 + body.length := by
              rw [List.length_cons]
              omega
            rw [← hplace]
            exact @Lexes.token _ _ (c :: body) (c :: back) _ htakes (lexes_stuck hquote hback _)
    · split at h
      · split at h <;> cases h
      · cases h

theorem lexes_scan (place : Nat) (cs : List Char) : Lexes place cs (scan place cs) := by
  fun_induction scan place cs with
  | case1 place => exact .done place
  | case2 place c cs e h => exact lexes_of_front_error h
  | case3 place c cs t extra h ih =>
      obtain ⟨kind, lexeme, heq, hlength, htakes, rfl⟩ := takes_of_front h
      have hplace : place + extra + 1 = place + lexeme.length := by omega
      rw [hplace] at ih ⊢
      rw [heq] at htakes ⊢
      exact .token htakes ih

/-- The reader gives the tokens of a text, or the error for the character that begins none. -/
theorem lexes_iff {place : Nat} {cs : List Char} {r : Except OpenQuote (List FragmentToken)} :
    Lexes place cs r ↔ scan place cs = r :=
  ⟨fun h => (lexes_scan place cs).unique h, fun h => h ▸ lexes_scan place cs⟩

end RecordMapper.Fragment
