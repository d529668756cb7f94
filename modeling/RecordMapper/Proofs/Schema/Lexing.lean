import Mathlib.Data.List.TakeWhile
import RecordMapper.Proofs.Value.Escapes
import RecordMapper.Schema.Lexer

/-! # Where the reading of tokens stops

The tokens of a text are those of its pieces up to the first one that cannot be read. Two kinds of
pieces begin like a token and are none all the same: integers of too many digits and quoted texts
with a broken escape. -/

namespace RecordMapper.Lexer

open Number Text

/-! ## Fronts -/

/-- The tokens of the pieces at the front of a text, which begins at a line and a place, and the
line and the text behind them. -/
inductive Front : Nat → Nat → List Char → List Token → Nat → List Char → Prop where
  | nil (line position : Nat) (cs : List Char) : Front line position cs [] line cs
  | blank {line position extra line' : Nat} {c : Char} {cs rest : List Char} {ts : List Token} :
      piece c cs = .blank extra →
      Front line (position + extra + 1) (cs.drop extra) ts line' rest →
      Front line position (c :: cs) ts line' rest
  | breaks {line position extra line' : Nat} {c : Char} {cs rest : List Char} {ts : List Token} :
      piece c cs = .breaks extra →
      Front (line + extra + 1) (position + extra + 1) (cs.drop extra) ts line' rest →
      Front line position (c :: cs) ts line' rest
  | token {line position extra line' : Nat} {c : Char} {cs rest : List Char} {ts : List Token}
      {lexeme : Lexeme} : piece c cs = .token lexeme extra →
      Front line (position + extra + 1) (cs.drop extra) ts line' rest →
      Front line position (c :: cs) (⟨lexeme, line, position⟩ :: ts) line' rest

/-- Why reading stops in front of a text: it is at an end, or at a piece that cannot be read. -/
inductive Stop (line : Nat) : List Char → Option LexError → Prop where
  | done : Stop line [] none
  | illegal {c : Char} {cs : List Char} : piece c cs = .illegal →
      Stop line (c :: cs) (some (.illegal c line))
  | longNumeral {c : Char} {cs : List Char} {n : Nat} : piece c cs = .longNumeral n →
      Stop line (c :: cs) (some (.longNumeral n))
  | brokenEscape {c : Char} {cs : List Char} : piece c cs = .brokenEscape →
      Stop line (c :: cs) (some .brokenEscape)

theorem Stop.scan {line position : Nat} {cs : List Char} {stop : Option LexError}
    (h : Stop line cs stop) : Lexer.scan line position cs = ([], stop) := by
  cases h with
  | done => rw [Lexer.scan]
  | illegal h => simp only [Lexer.scan, h]
  | longNumeral h => simp only [Lexer.scan, h]
  | brokenEscape h => simp only [Lexer.scan, h]

theorem exists_front_of_scan (line position : Nat) (cs : List Char) :
    ∃ line' rest, Front line position cs (scan line position cs).1 line' rest ∧
      Stop line' rest (scan line position cs).2 := by
  fun_induction scan line position cs with
  | case1 line position => exact ⟨line, [], .nil line position [], .done⟩
  | case2 line position c cs extra h ih =>
      obtain ⟨line', rest, hfront, hstop⟩ := ih
      exact ⟨line', rest, .blank h hfront, hstop⟩
  | case3 line position c cs extra h ih =>
      obtain ⟨line', rest, hfront, hstop⟩ := ih
      exact ⟨line', rest, .breaks h hfront, hstop⟩
  | case4 line position c cs lexeme extra h tokens stop hscan ih =>
      rw [hscan] at ih
      obtain ⟨line', rest, hfront, hstop⟩ := ih
      exact ⟨line', rest, .token h hfront, hstop⟩
  | case5 line position c cs h => exact ⟨line, c :: cs, .nil line position _, .illegal h⟩
  | case6 line position c cs n h => exact ⟨line, c :: cs, .nil line position _, .longNumeral h⟩
  | case7 line position c cs h => exact ⟨line, c :: cs, .nil line position _, .brokenEscape h⟩

/-- Reading gives the tokens of the pieces up to the first one that cannot be read. -/
theorem scan_eq_iff {line position : Nat} {cs : List Char} {ts : List Token}
    {stop : Option LexError} :
    scan line position cs = (ts, stop) ↔
      ∃ line' rest, Front line position cs ts line' rest ∧ Stop line' rest stop := by
  constructor
  · intro h
    have hfront := exists_front_of_scan line position cs
    rwa [h] at hfront
  · rintro ⟨line', rest, hfront, hstop⟩
    induction hfront with
    | nil line position cs => exact hstop.scan
    | blank h _ ih => simp only [scan, h, ih hstop]
    | breaks h _ ih => simp only [scan, h, ih hstop]
    | token h _ ih => simp only [scan, h, ih hstop]

/-! ## Numbers -/

theorem ne_of_digit {c d : Char} (hc : isDigit c = true) (hd : isDigit d = false) : c ≠ d := by
  rintro rfl
  simp [hc] at hd

theorem toNat_of_beginsName {c : Char} (h : beginsName c = true) : 65 ≤ c.toNat ∧ c.toNat ≤ 122 := by
  have hle : ∀ d e : Char, d ≤ e ↔ d.toNat ≤ e.toNat := fun d e => by
    simp only [Char.le_def, UInt32.le_iff_toNat_le, Char.toNat]
  simp only [beginsName, Bool.or_eq_true, Bool.and_eq_true, decide_eq_true_eq, beq_iff_eq, hle] at h
  rcases h with (h | h) | rfl
  · exact ⟨le_trans (by decide) h.1, h.2⟩
  · exact ⟨h.1, h.2.trans (by decide)⟩
  · decide

/-- No digit of any script begins a name. -/
theorem beginsName_of_digit {c : Char} (h : isDigit c = true) : beginsName c = false := by
  obtain ⟨z, hz, hlow, hhigh⟩ := exists_digitZero h
  have hclear : ∀ z ∈ digitZeros, z + 9 < 65 ∨ 122 < z := by decide
  have hz := hclear z hz
  rw [Bool.eq_false_iff]
  intro hname
  have hrange := toNat_of_beginsName hname
  omega

/-- The number in front of the text is at its end: no digit goes on with it, and no point with a
digit behind it. -/
structure EndsNumber (rest : List Char) : Prop where
  noDigit : ∀ c cs, rest = c :: cs → isDigit c = false
  noFraction : ∀ c cs, rest = '.' :: c :: cs → isDigit c = false

/-- An integer with more digits than are turned into one, at the front of a text. -/
inductive LongNumeral : List Char → Nat → Prop where
  | integer {sign digits rest : List Char} : sign = [] ∨ sign = ['-'] →
      (∀ c ∈ digits, isDigit c = true) → longestNumeral < digits.length → EndsNumber rest →
      LongNumeral (sign ++ (digits ++ rest)) digits.length

section

variable {sign digits rest : List Char} {n : Nat}

theorem takeWhile_digits (h : ∀ c ∈ digits, isDigit c = true)
    (hrest : ∀ c cs, rest = c :: cs → isDigit c = false) :
    (digits ++ rest).takeWhile isDigit = digits ∧ (digits ++ rest).dropWhile isDigit = rest := by
  rw [List.takeWhile_append_of_pos h, List.dropWhile_append_of_pos h]
  cases rest with
  | nil => simp
  | cons c cs => simp [hrest c cs rfl]

theorem readInteger_digits (hsign : sign = [] ∨ sign = ['-']) (hne : digits ≠ [])
    (h : ∀ c ∈ digits, isDigit c = true) :
    readInteger (sign ++ digits) =
      if longestNumeral < digits.length then .error (.tooLong digits.length)
      else .ok (withSign (sign == ['-']) (digitsValue 0 digits)) := by
  have hsplit : splitSign (sign ++ digits) = (sign == ['-'], digits) := by
    rcases hsign with rfl | rfl
    · obtain ⟨c, cs, rfl⟩ := List.exists_cons_of_ne_nil hne
      have hc := h c List.mem_cons_self
      rw [List.nil_append, splitSign]
      · rfl
      · exact fun _ heq => ne_of_digit hc (by decide) (List.cons.inj heq).1
      · exact fun _ heq => ne_of_digit hc (by decide) (List.cons.inj heq).1
    · rfl
  have htext : Cast.isIntegerText (sign ++ digits) = true := by
    rw [Cast.isIntegerText, hsplit]
    simpa [hne] using h
  rw [readInteger_of_isIntegerText htext, hsplit]

theorem numberPiece_of_ends (hsign : sign = [] ∨ sign = ['-']) (hne : digits ≠ [])
    (h : ∀ c ∈ digits, isDigit c = true) (hends : EndsNumber rest) :
    numberPiece sign (digits ++ rest) =
      if longestNumeral < digits.length then .longNumeral digits.length
      else .token (.integer (withSign (sign == ['-']) (digitsValue 0 digits)))
        (sign.length + digits.length - 1) := by
  obtain ⟨htake, hdrop⟩ := takeWhile_digits h hends.noDigit
  simp only [numberPiece, htake, hdrop, readInteger_digits hsign hne h]
  split
  · rename_i behind
    have hnone : behind.takeWhile isDigit = [] := by
      cases behind with
      | nil => rfl
      | cons c cs => simp [hends.noFraction c cs rfl]
    rw [hnone]
    split_ifs <;> rfl
  · split_ifs <;> rfl

theorem exists_fraction (hrest : ∀ c cs, rest = c :: cs → isDigit c = false)
    (hends : ¬ EndsNumber rest) : ∃ c cs, rest = '.' :: c :: cs ∧ isDigit c = true := by
  by_contra hnone
  refine hends ⟨hrest, fun c cs heq => ?_⟩
  by_contra hc
  exact hnone ⟨c, cs, heq, by simpa using hc⟩

theorem natAbs_withSign (negative : Bool) (n : Nat) : (withSign negative n).natAbs = n := by
  unfold withSign
  split <;> simp

end

/-! ## Quoted texts -/

/-- What may stand between quotes: no quote, and behind a backslash any character but a line
break. -/
inductive Quoted : List Char → Prop where
  | nil : Quoted []
  | plain {c : Char} {cs : List Char} : c ≠ '"' → c ≠ '\\' → Quoted cs → Quoted (c :: cs)
  | escape {c : Char} {cs : List Char} : c ≠ '\n' → Quoted cs → Quoted ('\\' :: c :: cs)

/-- A quoted text with a broken escape, at the front of a text. -/
inductive BrokenText : List Char → Prop where
  | text {body rest : List Char} : Quoted body → unescape? body = none →
      BrokenText ('"' :: (body ++ '"' :: rest))

/-- A quoted text is read up to the quote that closes it. -/
theorem quotedBody_eq_some_iff {cs body : List Char} {extra : Nat} :
    quotedBody cs = some (body, extra) ↔
      Quoted body ∧ extra = body.length + 1 ∧ ∃ rest, cs = body ++ '"' :: rest := by
  constructor
  · intro h
    fun_induction quotedBody cs generalizing body extra with
    | case1 => cases h
    | case2 cs =>
        cases h
        exact ⟨.nil, rfl, cs, rfl⟩
    | case3 => cases h
    | case4 => cases h
    | case5 c cs hc ih =>
        obtain ⟨⟨body, extra⟩, hbody, heq⟩ := Option.map_eq_some_iff.mp h
        cases heq
        obtain ⟨hquoted, rfl, rest, rfl⟩ := ih hbody
        exact ⟨.escape hc hquoted, rfl, rest, rfl⟩
    | case6 c cs hquote hlast hescape ih =>
        obtain ⟨⟨body, extra⟩, hbody, heq⟩ := Option.map_eq_some_iff.mp h
        cases heq
        obtain ⟨hquoted, rfl, rest, rfl⟩ := ih hbody
        obtain ⟨d, ds, hcs⟩ : ∃ d ds, body ++ '"' :: rest = d :: ds :=
          List.exists_cons_of_ne_nil (by simp)
        exact ⟨.plain hquote (fun hc => hescape d ds hc hcs) hquoted, rfl, rest, rfl⟩
  · rintro ⟨hquoted, rfl, rest, rfl⟩
    induction hquoted with
    | nil => rfl
    | plain hquote hescape _ ih =>
        rw [List.cons_append, quotedBody, ih]
        · rfl
        · exact hquote
        · exact fun hc => absurd hc hescape
        · exact fun _ _ hc => absurd hc hescape
    | escape hc _ ih =>
        rw [List.cons_append, List.cons_append, quotedBody, if_neg hc, ih]
        rfl

/-! ## Pieces -/

/-- What a piece is, by the text at whose front it stands. -/
inductive Told (text : List Char) : Piece → Prop where
  | blank (extra : Nat) : Told text (.blank extra)
  | breaks (extra : Nat) : Told text (.breaks extra)
  | identifier (name : String) (extra : Nat) : Told text (.token (.identifier name) extra)
  | keyword (k : Keyword) (extra : Nat) : Told text (.token (.keyword k) extra)
  | mark (m : Mark) (extra : Nat) : Told text (.token (.mark m) extra)
  | string (s : String) (extra : Nat) : Told text (.token (.string s) extra)
  | float (x : Binary64) (extra : Nat) : Told text (.token (.float x) extra)
  | integer {i : Int} (extra : Nat) : digitCount i.natAbs ≤ longestNumeral →
      Told text (.token (.integer i) extra)
  | illegal : Told text .illegal
  | longNumeral {n : Nat} : LongNumeral text n → Told text (.longNumeral n)
  | brokenEscape : BrokenText text → Told text .brokenEscape

theorem told_namePiece (text : List Char) (c : Char) (cs : List Char) :
    Told text (namePiece c cs) := by
  unfold namePiece
  dsimp only
  split
  · exact .keyword _ _
  · exact .identifier _ _

theorem told_stringPiece (cs : List Char) : Told ('"' :: cs) (stringPiece cs) := by
  unfold stringPiece
  split
  · exact .illegal
  · rename_i body extra hbody
    obtain ⟨hquoted, -, rest, rfl⟩ := quotedBody_eq_some_iff.mp hbody
    split
    · exact .string _ _
    · rename_i hbroken
      exact .brokenEscape (.text hquoted hbroken)

theorem told_numberPiece {sign digits rest : List Char} (hsign : sign = [] ∨ sign = ['-'])
    (hne : digits ≠ []) (h : ∀ c ∈ digits, isDigit c = true)
    (hrest : ∀ c cs, rest = c :: cs → isDigit c = false) :
    Told (sign ++ (digits ++ rest)) (numberPiece sign (digits ++ rest)) := by
  by_cases hends : EndsNumber rest
  · rw [numberPiece_of_ends hsign hne h hends]
    split
    · rename_i hlong
      exact .longNumeral (.integer hsign h hlong hends)
    · rename_i hshort
      refine .integer _ ?_
      have hvalue := digitsValue_lt 0 digits
      rw [Nat.zero_add, Nat.one_mul] at hvalue
      rw [natAbs_withSign]
      exact (digitCount_le (List.length_pos_of_ne_nil hne) hvalue).trans (Nat.le_of_not_lt hshort)
  · obtain ⟨htake, hdrop⟩ := takeWhile_digits h hrest
    obtain ⟨c, cs, rfl, hc⟩ := exists_fraction hrest hends
    simp only [numberPiece, htake, hdrop, List.takeWhile_cons, hc, if_true]
    split
    · exact .float _ _
    · exact .illegal

theorem exists_digits {c : Char} {cs : List Char} (hc : isDigit c = true) :
    ∃ digits rest, c :: cs = digits ++ rest ∧ digits ≠ [] ∧ (∀ d ∈ digits, isDigit d = true) ∧
      ∀ d ds, rest = d :: ds → isDigit d = false := by
  refine ⟨(c :: cs).takeWhile isDigit, (c :: cs).dropWhile isDigit,
    List.takeWhile_append_dropWhile.symm, by simp [hc], fun d hd => List.mem_takeWhile_imp hd, ?_⟩
  intro d ds hrest
  have hhead := List.head?_dropWhile_not isDigit (c :: cs)
  rwa [hrest] at hhead

theorem told_piece (c : Char) (cs : List Char) : Told (c :: cs) (piece c cs) := by
  unfold piece
  split_ifs with hblank hbreak hcomment hquote hname hdigit hminus
  · exact .blank _
  · exact .breaks _
  · exact .blank _
  · rw [hquote]
    exact told_stringPiece cs
  · exact told_namePiece _ c cs
  · obtain ⟨digits, rest, heq, hne, hdigits, hrest⟩ := @exists_digits _ cs hdigit
    rw [heq]
    exact told_numberPiece (.inl rfl) hne hdigits hrest
  · obtain ⟨rfl, hhead⟩ := hminus
    cases cs with
    | nil => simp at hhead
    | cons d ds =>
        obtain ⟨digits, rest, heq, hne, hdigits, hrest⟩ := @exists_digits _ ds hhead
        rw [heq]
        exact told_numberPiece (.inr rfl) hne hdigits hrest
  · split
    · exact .mark _ _
    · exact .illegal

/-- A sign and digits are the beginning of a number. -/
theorem piece_digits {sign digits rest : List Char} (hsign : sign = [] ∨ sign = ['-'])
    (hne : digits ≠ []) (h : ∀ c ∈ digits, isDigit c = true) :
    ∃ c cs, sign ++ (digits ++ rest) = c :: cs ∧ piece c cs = numberPiece sign (digits ++ rest) := by
  obtain ⟨d, ds, rfl⟩ := List.exists_cons_of_ne_nil hne
  have hd := h d List.mem_cons_self
  have hother : ∀ c, isDigit c = false → d ≠ c := fun c hc => ne_of_digit hd hc
  rcases hsign with rfl | rfl
  · refine ⟨d, ds ++ rest, rfl, ?_⟩
    have hblank : ¬ (d = ' ' ∨ d = '\t' ∨ d = '\r') := by
      rintro (h | h | h)
      · exact hother _ (by decide) h
      · exact hother _ (by decide) h
      · exact hother _ (by decide) h
    rw [piece, if_neg hblank, if_neg (hother _ (by decide)), if_neg (hother _ (by decide)),
      if_neg (hother _ (by decide)), beginsName_of_digit hd, hd]
    rfl
  · refine ⟨'-', d :: ds ++ rest, rfl, ?_⟩
    have hname : beginsName '-' = false := by decide
    have hdigit : isDigit '-' = false := by decide
    simp [piece, hname, hdigit, hd]

/-- The integers that are no token are those of too many digits. -/
theorem piece_eq_longNumeral_iff {c : Char} {cs : List Char} {n : Nat} :
    piece c cs = .longNumeral n ↔ LongNumeral (c :: cs) n := by
  constructor
  · intro h
    have htold := told_piece c cs
    rw [h] at htold
    cases htold with
    | longNumeral hlong => exact hlong
  · intro h
    generalize htext : c :: cs = text at h
    obtain ⟨hsign, hdigits, hlong, hends⟩ := h
    rename_i sign digits rest
    have hne : digits ≠ [] := List.ne_nil_of_length_pos (by omega)
    obtain ⟨c', cs', htext', hpiece⟩ := @piece_digits sign digits rest hsign hne hdigits
    obtain ⟨rfl, rfl⟩ := List.cons.inj (htext.trans htext')
    rw [hpiece, numberPiece_of_ends hsign hne hdigits hends, if_pos hlong]

/-- The quoted texts that are no token are those with a broken escape. -/
theorem piece_eq_brokenEscape_iff {c : Char} {cs : List Char} :
    piece c cs = .brokenEscape ↔ BrokenText (c :: cs) := by
  constructor
  · intro h
    have htold := told_piece c cs
    rw [h] at htold
    cases htold with
    | brokenEscape hbroken => exact hbroken
  · intro h
    cases h with
    | @text body rest hquoted hnone =>
        have hbody := quotedBody_eq_some_iff.mpr ⟨hquoted, rfl, rest, rfl⟩
        have hpiece : piece '"' (body ++ '"' :: rest) = stringPiece (body ++ '"' :: rest) := rfl
        simp only [hpiece, stringPiece, hbody, hnone]

/-- The integer of a token has no more digits than are turned into one. -/
theorem digitCount_of_front {line position line' : Nat} {cs rest : List Char} {ts : List Token}
    (h : Front line position cs ts line' rest) {t : Token} (ht : t ∈ ts) {i : Int}
    (hi : t.lexeme = .integer i) : digitCount i.natAbs ≤ longestNumeral := by
  induction h with
  | nil => cases ht
  | blank _ _ ih => exact ih ht
  | breaks _ _ ih => exact ih ht
  | @token _ _ _ _ c cs _ _ _ hpiece _ ih =>
      rcases List.mem_cons.mp ht with rfl | ht
      · have htold := told_piece c cs
        dsimp only at hi
        rw [hpiece, hi] at htold
        cases htold with
        | integer _ hshort => exact hshort
      · exact ih ht

/-! ## Ends -/

variable {line position n : Nat} {cs : List Char} {ts : List Token}

theorem scan_eq_done_iff :
    scan line position cs = (ts, none) ↔ ∃ line', Front line position cs ts line' [] := by
  rw [scan_eq_iff]
  constructor
  · rintro ⟨line', rest, hfront, hstop⟩
    cases hstop
    exact ⟨line', hfront⟩
  · rintro ⟨line', hfront⟩
    exact ⟨line', [], hfront, .done⟩

theorem not_longNumeral_nil : ¬ LongNumeral [] n := by
  intro h
  generalize htext : [] = text at h
  obtain ⟨-, -, hlong, -⟩ := h
  simp only [List.nil_eq, List.append_eq_nil_iff] at htext
  simp [htext.2.1] at hlong

theorem scan_eq_longNumeral_iff :
    scan line position cs = (ts, some (.longNumeral n)) ↔
      ∃ line' rest, Front line position cs ts line' rest ∧ LongNumeral rest n := by
  rw [scan_eq_iff]
  constructor
  · rintro ⟨line', rest, hfront, hstop⟩
    cases hstop with
    | longNumeral h => exact ⟨line', _, hfront, piece_eq_longNumeral_iff.mp h⟩
  · rintro ⟨line', rest, hfront, hlong⟩
    cases rest with
    | nil => exact absurd hlong not_longNumeral_nil
    | cons c cs => exact ⟨line', _, hfront, .longNumeral (piece_eq_longNumeral_iff.mpr hlong)⟩

theorem scan_eq_brokenEscape_iff :
    scan line position cs = (ts, some .brokenEscape) ↔
      ∃ line' rest, Front line position cs ts line' rest ∧ BrokenText rest := by
  rw [scan_eq_iff]
  constructor
  · rintro ⟨line', rest, hfront, hstop⟩
    cases hstop with
    | brokenEscape h => exact ⟨line', _, hfront, piece_eq_brokenEscape_iff.mp h⟩
  · rintro ⟨line', rest, hfront, hbroken⟩
    cases rest with
    | nil => cases hbroken
    | cons c cs => exact ⟨line', _, hfront, .brokenEscape (piece_eq_brokenEscape_iff.mpr hbroken)⟩

end RecordMapper.Lexer
