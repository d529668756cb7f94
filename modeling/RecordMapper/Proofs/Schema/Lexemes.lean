import RecordMapper.Proofs.Schema.Lexing

/-! # How lexemes are written

A token has a spelling, which says what it is, and an end, at which nothing can go on with it. A
text begins with a token exactly when it begins with a spelling that is at its end. Whether it is
takes a look at the next character, and behind an integer at the two next ones. -/

namespace RecordMapper.Lexer

open Number Text

/-! ## Spellings and ends -/

/-- What a word is: the reserved word that is written so, or a name. -/
def wordLexeme (word : String) : Lexeme :=
  match Keyword.ofWord? word with
  | some k => .keyword k
  | none => .identifier word

/-- The characters that a lexeme is written with. -/
inductive Spells : List Char → Lexeme → Prop where
  | word {c : Char} {cs : List Char} : beginsName c = true → (∀ d ∈ cs, continuesName d = true) →
      Spells (c :: cs) (wordLexeme (String.ofList (c :: cs)))
  | integer {sign digits : List Char} : sign = [] ∨ sign = ['-'] → digits ≠ [] →
      (∀ d ∈ digits, isDigit d = true) → digits.length ≤ longestNumeral →
      Spells (sign ++ digits) (.integer (withSign (sign == ['-']) (digitsValue 0 digits)))
  | float {sign whole fraction : List Char} {x : Binary64} : sign = [] ∨ sign = ['-'] → whole ≠ [] →
      (∀ d ∈ whole, isDigit d = true) → fraction ≠ [] → (∀ d ∈ fraction, isDigit d = true) →
      readFloat? (sign ++ whole ++ '.' :: fraction) = some x →
      Spells (sign ++ (whole ++ '.' :: fraction)) (.float x)
  | string {body : List Char} {s : String} : Quoted body → unescape? body = some s →
      Spells ('"' :: (body ++ ['"'])) (.string s)
  | mark (m : Mark) : Spells [m.char] (.mark m)

/-- The lexeme in front of the text is at its end. -/
def Ends : Lexeme → List Char → Prop
  | .identifier _, rest => ∀ d ds, rest = d :: ds → continuesName d = false
  | .keyword _, rest => ∀ d ds, rest = d :: ds → continuesName d = false
  | .integer _, rest => EndsNumber rest
  | .float _, rest => ∀ d ds, rest = d :: ds → isDigit d = false
  | .string _, _ => True
  | .mark _, _ => True

variable {c : Char} {cs u rest : List Char} {lexeme : Lexeme} {extra : Nat}

theorem ends_wordLexeme {word : String} :
    Ends (wordLexeme word) rest ↔ ∀ d ds, rest = d :: ds → continuesName d = false := by
  unfold wordLexeme
  split <;> rfl

/-! ## Pieces by their first character -/

theorem piece_of_beginsName (h : beginsName c = true) : piece c cs = namePiece c cs := by
  have hrange := toNat_of_beginsName h
  have hne : ∀ d : Char, d.toNat < 65 → c ≠ d := by
    intro d hd heq
    subst heq
    omega
  have hblank : ¬ (c = ' ' ∨ c = '\t' ∨ c = '\r') := by
    simp only [not_or]
    exact ⟨hne _ (by decide), hne _ (by decide), hne _ (by decide)⟩
  rw [piece, if_neg hblank, if_neg (hne _ (by decide)), if_neg (hne _ (by decide)),
    if_neg (hne _ (by decide)), if_pos h]

theorem piece_quote : piece '"' cs = stringPiece cs := rfl

theorem piece_mark (m : Mark) : piece m.char cs = .token (.mark m) 0 := by
  cases m <;> rfl

theorem char_of_ofChar? {m : Mark} (h : Mark.ofChar? c = some m) : m.char = c := by
  simpa using List.find?_some h

/-! ## From spellings to pieces -/

theorem namePiece_of_ends (h : ∀ d ∈ u, continuesName d = true)
    (hrest : ∀ d ds, rest = d :: ds → continuesName d = false) :
    namePiece c (u ++ rest) = .token (wordLexeme (String.ofList (c :: u))) u.length := by
  have htake : (u ++ rest).takeWhile continuesName = u := by
    rw [List.takeWhile_append_of_pos h]
    cases rest with
    | nil => simp
    | cons d ds => simp [hrest d ds rfl]
  rw [namePiece, htake, wordLexeme]
  cases Keyword.ofWord? (String.ofList (c :: u)) <;> rfl

theorem numberPiece_fraction {sign whole fraction : List Char} (hwhole : ∀ d ∈ whole, isDigit d = true)
    (hne : fraction ≠ []) (h : ∀ d ∈ fraction, isDigit d = true)
    (hrest : ∀ d ds, rest = d :: ds → isDigit d = false) :
    numberPiece sign (whole ++ '.' :: (fraction ++ rest)) =
      match readFloat? (sign ++ whole ++ '.' :: fraction) with
      | some x => .token (.float x) (sign.length + whole.length + fraction.length)
      | none => .illegal := by
  have hpoint : ∀ d ds, '.' :: (fraction ++ rest) = d :: ds → isDigit d = false := by
    intro d ds heq
    rw [← (List.cons.inj heq).1]
    decide
  obtain ⟨htake, hdrop⟩ := takeWhile_digits hwhole hpoint
  obtain ⟨d, ds, rfl⟩ := List.exists_cons_of_ne_nil hne
  have hfraction := (takeWhile_digits h hrest).1
  cases hread : readFloat? (sign ++ whole ++ '.' :: d :: ds) with
  | none => simp only [numberPiece, htake, hdrop, hfraction, hread]
  | some x => simp only [numberPiece, htake, hdrop, hfraction, hread]

/-- A text that begins with a spelling at its end begins with the token. -/
theorem piece_of_spells (h : Spells (c :: u) lexeme) (hends : Ends lexeme rest) :
    piece c (u ++ rest) = .token lexeme u.length := by
  generalize hw : c :: u = w at h
  cases h with
  | word hc hcs =>
      obtain ⟨rfl, rfl⟩ := List.cons.inj hw
      rw [piece_of_beginsName hc, namePiece_of_ends hcs (ends_wordLexeme.mp hends)]
  | @integer sign digits hsign hne hdigits hshort =>
      obtain ⟨c', cs', htext, hpiece⟩ := @piece_digits sign digits rest hsign hne hdigits
      rw [← List.append_assoc, ← hw, List.cons_append] at htext
      obtain ⟨rfl, rfl⟩ := List.cons.inj htext
      rw [hpiece, numberPiece_of_ends hsign hne hdigits hends, if_neg (Nat.not_lt.mpr hshort),
        ← List.length_append, ← hw]
      rfl
  | @float sign whole fraction x hsign hwhole hdigits hne hfraction hread =>
      obtain ⟨c', cs', htext, hpiece⟩ :=
        @piece_digits sign whole ('.' :: (fraction ++ rest)) hsign hwhole hdigits
      have hlength := congrArg List.length hw
      simp only [List.length_cons, List.length_append] at hlength
      rw [← List.cons_append, ← List.append_assoc, ← List.append_assoc, List.append_assoc sign,
        ← hw, List.cons_append] at htext
      obtain ⟨rfl, rfl⟩ := List.cons.inj htext
      rw [hpiece, numberPiece_fraction hdigits hne hfraction hends, hread]
      dsimp only
      congr 1
      omega
  | @string body s hquoted hs =>
      obtain ⟨rfl, rfl⟩ := List.cons.inj hw
      have hbody := quotedBody_eq_some_iff.mpr ⟨hquoted, rfl, rest, rfl⟩
      rw [piece_quote, stringPiece, List.append_assoc, List.singleton_append, hbody]
      simp only [hs, List.length_append, List.length_singleton]
  | mark m =>
      obtain ⟨rfl, rfl⟩ := List.cons.inj hw
      exact piece_mark m

/-! ## From pieces to spellings -/

/-- The characters of the token at the front of a text, and the text behind it. -/
def Fronted (lexeme : Lexeme) (extra : Nat) (text : List Char) : Prop :=
  ∃ w rest, text = w ++ rest ∧ w.length = extra + 1 ∧ Spells w lexeme ∧ Ends lexeme rest

theorem fronted_namePiece (hc : beginsName c = true) (h : namePiece c cs = .token lexeme extra) :
    Fronted lexeme extra (c :: cs) := by
  have hmore : ∀ d ∈ cs.takeWhile continuesName, continuesName d = true :=
    fun d hd => List.mem_takeWhile_imp hd
  have hrest : ∀ d ds, cs.dropWhile continuesName = d :: ds → continuesName d = false := by
    intro d ds heq
    have hhead := List.head?_dropWhile_not continuesName cs
    rwa [heq] at hhead
  have hcs : cs = cs.takeWhile continuesName ++ cs.dropWhile continuesName :=
    List.takeWhile_append_dropWhile.symm
  rw [hcs, namePiece_of_ends hmore hrest] at h
  cases h
  exact ⟨_, _, by rw [List.cons_append, ← hcs], rfl, .word hc hmore, ends_wordLexeme.mpr hrest⟩

theorem fronted_stringPiece (h : stringPiece cs = .token lexeme extra) :
    Fronted lexeme extra ('"' :: cs) := by
  unfold stringPiece at h
  split at h
  · cases h
  · rename_i body n hbody
    obtain ⟨hquoted, hn, rest, hcs⟩ := quotedBody_eq_some_iff.mp hbody
    split at h
    · rename_i s hs
      cases h
      exact ⟨'"' :: (body ++ ['"']), rest, by simp [hcs], by simp [hn], .string hquoted hs, trivial⟩
    · cases h

theorem fronted_numberPiece {sign digits : List Char} (hsign : sign = [] ∨ sign = ['-'])
    (hne : digits ≠ []) (hdigits : ∀ d ∈ digits, isDigit d = true)
    (hrest : ∀ d ds, rest = d :: ds → isDigit d = false)
    (h : numberPiece sign (digits ++ rest) = .token lexeme extra) :
    Fronted lexeme extra (sign ++ (digits ++ rest)) := by
  have hpos := List.length_pos_of_ne_nil hne
  by_cases hends : EndsNumber rest
  · rw [numberPiece_of_ends hsign hne hdigits hends] at h
    split_ifs at h with hlong
    cases h
    refine ⟨sign ++ digits, rest, (List.append_assoc _ _ _).symm, ?_,
      .integer hsign hne hdigits (Nat.le_of_not_lt hlong), hends⟩
    rw [List.length_append]
    omega
  · obtain ⟨d, ds, rfl, hd⟩ := exists_fraction hrest hends
    obtain ⟨fraction, behind, hfront, hfraction, hall, hbehind⟩ := @exists_digits d ds hd
    rw [hfront, numberPiece_fraction hdigits hfraction hall hbehind] at h
    split at h
    · rename_i x hx
      cases h
      refine ⟨sign ++ (digits ++ '.' :: fraction), behind, by simp [hfront], ?_,
        .float hsign hne hdigits hfraction hall hx, hbehind⟩
      simp only [List.length_append, List.length_cons]
      omega
    · cases h

/-- A text begins with a token exactly when it begins with a spelling of it at its end. -/
theorem piece_eq_token_iff : piece c cs = .token lexeme extra ↔ Fronted lexeme extra (c :: cs) := by
  constructor
  · intro h
    unfold piece at h
    split_ifs at h with hblank hbreak hcomment hquote hname hdigit hminus
    · rw [hquote]
      exact fronted_stringPiece h
    · exact fronted_namePiece hname h
    · obtain ⟨digits, rest, heq, hne, hdigits, hrest⟩ := @exists_digits c cs hdigit
      rw [heq] at h ⊢
      exact fronted_numberPiece (.inl rfl) hne hdigits hrest h
    · obtain ⟨rfl, hhead⟩ := hminus
      cases cs with
      | nil => simp at hhead
      | cons d ds =>
          obtain ⟨digits, rest, heq, hne, hdigits, hrest⟩ := @exists_digits d ds hhead
          rw [heq] at h ⊢
          exact fronted_numberPiece (.inr rfl) hne hdigits hrest h
    · split at h
      · rename_i m hm
        cases h
        exact ⟨[c], cs, rfl, rfl, char_of_ofChar? hm ▸ .mark m, trivial⟩
      · cases h
  · rintro ⟨w, rest, htext, hlength, hspells, hends⟩
    obtain ⟨d, u, rfl⟩ := List.exists_cons_of_length_eq_add_one hlength
    rw [List.cons_append] at htext
    obtain ⟨rfl, rfl⟩ := List.cons.inj htext
    rw [piece_of_spells hspells hends, Nat.succ.inj hlength]

/-! ## What begins layout -/

/-- The character begins a blank, a line break or a comment. -/
def BeginsLayout (c : Char) : Prop := c = ' ' ∨ c = '\t' ∨ c = '\r' ∨ c = '\n' ∨ c = '#'

namespace Piece

/-- The piece is a blank, line breaks or a comment. -/
def IsLayout : Piece → Prop
  | .blank _ => True
  | .breaks _ => True
  | _ => False

end Piece

theorem not_isLayout_namePiece : ¬ (namePiece c cs).IsLayout := by
  unfold namePiece
  dsimp only
  split <;> exact id

theorem not_isLayout_stringPiece : ¬ (stringPiece cs).IsLayout := by
  unfold stringPiece
  split
  · exact id
  · split <;> exact id

theorem not_isLayout_numberPiece {sign : List Char} : ¬ (numberPiece sign cs).IsLayout := by
  unfold numberPiece
  dsimp only
  repeat' split
  all_goals exact id

theorem beginsLayout_of_isLayout (h : (piece c cs).IsLayout) : BeginsLayout c := by
  unfold piece at h
  split_ifs at h with hblank hbreak hcomment
  · unfold BeginsLayout
    tauto
  · unfold BeginsLayout
    tauto
  · unfold BeginsLayout
    tauto
  · exact absurd h not_isLayout_stringPiece
  · exact absurd h not_isLayout_namePiece
  · exact absurd h not_isLayout_numberPiece
  · exact absurd h not_isLayout_numberPiece
  · split at h <;> exact h.elim

/-- What begins with something else than layout begins with a token, or reading stops there. -/
theorem token_or_stop (h : ¬ BeginsLayout c) :
    (∃ lexeme extra, piece c cs = .token lexeme extra) ∨
      ∀ line, ∃ e, Stop line (c :: cs) (some e) := by
  have hpiece : ¬ (piece c cs).IsLayout := fun hlayout => h (beginsLayout_of_isLayout hlayout)
  cases heq : piece c cs with
  | blank extra =>
      rw [heq] at hpiece
      exact absurd trivial hpiece
  | breaks extra =>
      rw [heq] at hpiece
      exact absurd trivial hpiece
  | token lexeme extra => exact .inl ⟨lexeme, extra, rfl⟩
  | illegal => exact .inr fun line => ⟨_, .illegal heq⟩
  | longNumeral n => exact .inr fun line => ⟨_, .longNumeral heq⟩
  | brokenEscape => exact .inr fun line => ⟨_, .brokenEscape heq⟩

/-! ## What stands behind a token -/

theorem ends_nil (lexeme : Lexeme) : Ends lexeme [] := by
  cases lexeme with
  | integer i => exact ⟨nofun, nofun⟩
  | string s => trivial
  | mark m => trivial
  | _ => nofun

/-- Every token is at its end in front of layout. -/
theorem ends_of_beginsLayout (h : BeginsLayout c) (lexeme : Lexeme) : Ends lexeme (c :: cs) := by
  have hname : continuesName c = false := by
    rcases h with rfl | rfl | rfl | rfl | rfl <;> decide
  have hdigit : isDigit c = false := by
    rcases h with rfl | rfl | rfl | rfl | rfl <;> decide
  have hpoint : c ≠ '.' := by
    rcases h with rfl | rfl | rfl | rfl | rfl <;> decide
  have hhead : ∀ p : Char → Bool, p c = false → ∀ d ds, c :: cs = d :: ds → p d = false := by
    intro p hp d ds heq
    rwa [← (List.cons.inj heq).1]
  cases lexeme with
  | identifier name => exact hhead continuesName hname
  | keyword k => exact hhead continuesName hname
  | integer i => exact ⟨hhead isDigit hdigit, fun d ds heq => absurd (List.cons.inj heq).1 hpoint⟩
  | float x => exact hhead isDigit hdigit
  | string s => trivial
  | mark m => trivial

/-- Where no point follows, only the next character decides whether a token is at its end. -/
theorem Ends.of_head (h : Ends lexeme (c :: cs)) (hpoint : c ≠ '.') : Ends lexeme (c :: rest) := by
  have hhead : ∀ p : Char → Bool, (∀ d ds, c :: cs = d :: ds → p d = false) →
      ∀ d ds, c :: rest = d :: ds → p d = false := by
    intro p hp d ds heq
    rw [← (List.cons.inj heq).1]
    exact hp c cs rfl
  cases lexeme with
  | identifier name => exact hhead continuesName h
  | keyword k => exact hhead continuesName h
  | integer i =>
      exact ⟨hhead isDigit h.noDigit, fun d ds heq => absurd (List.cons.inj heq).1 hpoint⟩
  | float x => exact hhead isDigit h
  | string s => trivial
  | mark m => trivial

/-- No spelling is empty, and none begins with a point. -/
theorem Spells.exists_cons {w : List Char} (h : Spells w lexeme) : ∃ c u, w = c :: u ∧ c ≠ '.' := by
  have hsigned : ∀ sign digits more : List Char, sign = [] ∨ sign = ['-'] → digits ≠ [] →
      (∀ d ∈ digits, isDigit d = true) → ∃ c u, sign ++ (digits ++ more) = c :: u ∧ c ≠ '.' := by
    intro sign digits more hsign hne hdigits
    obtain ⟨d, ds, rfl⟩ := List.exists_cons_of_ne_nil hne
    cases hsign with
    | inl h =>
        have hd := hdigits d List.mem_cons_self
        exact ⟨d, ds ++ more, by rw [h]; rfl, ne_of_digit hd (by decide)⟩
    | inr h => exact ⟨'-', d :: ds ++ more, by rw [h]; rfl, by decide⟩
  cases h with
  | @word c cs hc _ =>
      refine ⟨c, cs, rfl, ?_⟩
      intro heq
      rw [heq] at hc
      revert hc
      decide
  | integer hsign hne hdigits _ => simpa using hsigned _ _ [] hsign hne hdigits
  | float hsign hne hdigits _ _ _ => exact hsigned _ _ _ hsign hne hdigits
  | string _ _ => exact ⟨'"', _, rfl, by decide⟩
  | mark m => exact ⟨m.char, [], rfl, by cases m <;> decide⟩

/-- Only a text between quotes can hold a line break. -/
theorem Spells.not_mem_newline {w : List Char} (h : Spells w lexeme)
    (hstring : ∀ s, lexeme ≠ .string s) : '\n' ∉ w := by
  have hdigits : ∀ ds : List Char, (∀ d ∈ ds, isDigit d = true) → '\n' ∉ ds :=
    fun ds hds hmem => ne_of_digit (hds _ hmem) (by decide) rfl
  have hsign : ∀ sign : List Char, sign = [] ∨ sign = ['-'] → '\n' ∉ sign := by
    rintro sign (rfl | rfl) <;> decide
  cases h with
  | word hc hcs =>
      intro hmem
      cases hmem with
      | head => exact absurd hc (by decide)
      | tail _ hmem => exact absurd (hcs _ hmem) (by decide)
  | integer hs _ hd _ => simp [hsign _ hs, hdigits _ hd]
  | float hs _ hwhole _ hfraction _ => simp [hsign _ hs, hdigits _ hwhole, hdigits _ hfraction]
  | string _ _ => exact absurd rfl (hstring _)
  | mark m => cases m <;> decide

end RecordMapper.Lexer
