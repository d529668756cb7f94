import RecordMapper.Text.Numeral

/-! # Quoted regions of a text

A text is read from left to right. A single or a double quote opens a region that the next quote of
the same kind closes, so a quote that is written twice within a region closes it and opens it
again. -/

namespace RecordMapper.Text

/-- The quote that is open after a character, by the one that is open before it. -/
def quoteAfter : Option Char → Char → Option Char
  | none, c => if c = '"' ∨ c = '\'' then some c else none
  | some q, c => if c = q then none else some q

/-- The quote that is open after a text, by the one that is open before it. -/
def quoteAtEnd (quote : Option Char) (cs : List Char) : Option Char := cs.foldl quoteAfter quote

/-- What stands outside quoted regions, the quotes around them included. -/
def unquoted : Option Char → List Char → List Char
  | _, [] => []
  | none, c :: cs => c :: unquoted (quoteAfter none c) cs
  | some q, c :: cs => if c = q then c :: unquoted none cs else unquoted (some q) cs

/-- Whether the character is a quote. -/
def isQuote (c : Char) : Bool := c = '"' ∨ c = '\''

@[simp] theorem quoteAtEnd_nil (quote : Option Char) : quoteAtEnd quote [] = quote := rfl

@[simp] theorem quoteAtEnd_cons (quote : Option Char) (c : Char) (cs : List Char) :
    quoteAtEnd quote (c :: cs) = quoteAtEnd (quoteAfter quote c) cs := rfl

@[simp] theorem quoteAtEnd_append (quote : Option Char) (cs ds : List Char) :
    quoteAtEnd quote (cs ++ ds) = quoteAtEnd (quoteAtEnd quote cs) ds := by
  simp [quoteAtEnd, List.foldl_append]

theorem unquoted_append (quote : Option Char) (cs ds : List Char) :
    unquoted quote (cs ++ ds) = unquoted quote cs ++ unquoted (quoteAtEnd quote cs) ds := by
  induction cs generalizing quote with
  | nil => cases quote <;> simp [unquoted]
  | cons c cs ih =>
      cases quote with
      | none => simp [unquoted, ih]
      | some q => by_cases h : c = q <;> simp [unquoted, quoteAfter, ih, h]

theorem quoteAfter_of_not_isQuote {c : Char} (h : isQuote c = false) :
    quoteAfter none c = none := by
  simp_all [quoteAfter, isQuote]

/-- A text without quotes is outside of them from one end to the other. -/
theorem quoteAtEnd_of_no_quote {cs : List Char} (h : ∀ c ∈ cs, isQuote c = false) :
    quoteAtEnd none cs = none := by
  induction cs with
  | nil => rfl
  | cons c cs ih =>
      have hc := quoteAfter_of_not_isQuote (h c (by simp))
      simpa [hc] using ih fun d hd => h d (by simp [hd])

theorem unquoted_of_no_quote {cs : List Char} (h : ∀ c ∈ cs, isQuote c = false) :
    unquoted none cs = cs := by
  induction cs with
  | nil => rfl
  | cons c cs ih =>
      have hc := quoteAfter_of_not_isQuote (h c (by simp))
      simpa [unquoted, hc] using ih fun d hd => h d (by simp [hd])

theorem mem_of_mem_unquoted {quote : Option Char} {cs : List Char} {c : Char}
    (h : c ∈ unquoted quote cs) : c ∈ cs := by
  induction cs generalizing quote with
  | nil => cases quote <;> simp [unquoted] at h
  | cons d cs ih => cases quote <;> grind [unquoted]

/-- A text that ends outside quotes and shows none of a set of characters outside them. -/
structure Closed (hidden : Char → Prop) (cs : List Char) : Prop where
  quote : quoteAtEnd none cs = none
  notMem : ∀ c ∈ unquoted none cs, ¬ hidden c

namespace Closed

variable {hidden : Char → Prop} {cs ds : List Char}

theorem nil : Closed hidden [] := ⟨rfl, by simp [unquoted]⟩

theorem append (hc : Closed hidden cs) (hd : Closed hidden ds) : Closed hidden (cs ++ ds) := by
  refine ⟨by simp [hc.quote, hd.quote], ?_⟩
  intro c h
  rw [unquoted_append, hc.quote, List.mem_append] at h
  exact h.elim (hc.notMem c) (hd.notMem c)

theorem of_no_quote (hq : ∀ c ∈ cs, isQuote c = false) (hh : ∀ c ∈ cs, ¬ hidden c) :
    Closed hidden cs :=
  ⟨quoteAtEnd_of_no_quote hq, by rwa [unquoted_of_no_quote hq]⟩

end Closed

end RecordMapper.Text
