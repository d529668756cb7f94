import Mathlib.Data.List.Forall2
import RecordMapper.Proofs.Json.Strings
import RecordMapper.Proofs.Row
import RecordMapper.Proofs.Text.Numerals

/-! # JSON texts are read back

A text reads as a value when the reader gets the value off its front, whatever may follow a value.
The texts of words, numbers and strings do, and so do the texts of lists and maps that are put
together from texts which do. -/

namespace RecordMapper

open Text

namespace Json

open Number

/-! ## What may follow and what begins a value -/

/-- What may follow a value: nothing, a comma or a closing bracket. -/
def Ends (rest : List Char) : Prop := ∀ c ∈ rest.head?, c = ',' ∨ c = ']' ∨ c = '\x7d'

/-- Whether a value can begin with the character: it is no space and no closing bracket. -/
def isOpening (c : Char) : Bool := !isSpace c && c != ']' && c != '\x7d'

theorem ends_nil : Ends [] := nofun

theorem ends_cons {c : Char} {rest : List Char} (h : c = ',' ∨ c = ']' ∨ c = '\x7d') :
    Ends (c :: rest) := by
  intro d hd
  obtain rfl : c = d := Option.some.inj hd
  exact h

theorem skipSpace_cons {c : Char} {cs : List Char} (h : isSpace c = false) :
    skipSpace (c :: cs) = c :: cs :=
  List.dropWhile_cons_of_neg (by simp [h])

theorem isSpace_of_isOpening {c : Char} (h : isOpening c = true) : isSpace c = false := by
  simp only [isOpening, Bool.and_eq_true, Bool.not_eq_true'] at h
  exact h.1.1

theorem isOpening_of_isDigit {c : Char} (h : c.isDigit = true) : isOpening c = true := by
  have hne : ∀ d : Char, d.isDigit = false → c ≠ d := fun d => ne_of_isDigit h
  simp [isOpening, isSpace, hne]

/-- The text begins with a character that a value can begin with. -/
def Opens (cs : List Char) : Prop := ∃ c rest, cs = c :: rest ∧ isOpening c = true

theorem Opens.append {cs : List Char} (h : Opens cs) (rest : List Char) : Opens (cs ++ rest) := by
  obtain ⟨c, cs, rfl, hc⟩ := h
  exact ⟨c, cs ++ rest, rfl, hc⟩

theorem Opens.skipSpace {cs : List Char} (h : Opens cs) : skipSpace cs = cs := by
  obtain ⟨c, cs, rfl, hc⟩ := h
  exact skipSpace_cons (isSpace_of_isOpening hc)

/-- A text reads as a value: it begins as values do, and the value is got off its front. -/
structure Reads (cs : List Char) (v : Value) : Prop where
  opens : Opens cs
  read : ∀ {fuel : Nat} {rest : List Char}, cs.length ≤ fuel → Ends rest →
    readValue (fuel + 1) (cs ++ rest) = .ok (v, rest)

namespace Reads

/-- A text that reads as a value is that of the value. -/
theorem readChars {cs : List Char} {v : Value} (h : Reads cs v) : readChars cs = .ok v := by
  have hskip : skipSpace cs = cs := h.opens.skipSpace
  have hread : readValue (cs.length + 1) cs = .ok (v, []) := by
    simpa using h.read (Nat.le_refl cs.length) ends_nil
  simp only [Json.readChars, hskip, hread]
  rfl

end Reads

/-! ## Words and numbers -/

theorem afterWord?_append (word : String) (rest : List Char) :
    afterWord? word (word.toList ++ rest) = some rest := by
  have hfront : word.toList.isPrefixOf (word.toList ++ rest) = true :=
    List.isPrefixOf_iff_prefix.mpr (List.prefix_append _ _)
  rw [afterWord?, if_pos hfront, ← String.length_toList, List.drop_left]

theorem afterWord?_eq_none {word : String} {w c : Char} {ws cs : List Char}
    (hword : word.toList = w :: ws) (h : c ≠ w) : afterWord? word (c :: cs) = none := by
  rw [afterWord?, hword, if_neg]
  simp [Ne.symm h]

/-- What begins with none of the opening characters is a word or a number. -/
theorem readValue_plain (fuel : Nat) {c : Char} (cs : List Char) (hquote : c ≠ '"')
    (hlist : c ≠ '[') (hmap : c ≠ '\x7b') :
    readValue (fuel + 1) (c :: cs) = readPlain (c :: cs) := by
  rw [readValue]
  all_goals simp [hquote, hlist, hmap]

theorem wholePart?_numeral (n : Nat) {rest : List Char} (h : Ends rest) :
    wholePart? (numeral n ++ rest) = some (numeral n, rest) := by
  have hrest : ∀ c ∈ rest.head?, c.isDigit = false := by
    intro c hc
    rcases h c hc with rfl | rfl | rfl <;> rfl
  have htake : rest.takeWhile Char.isDigit = [] := by
    cases rest with
    | nil => rfl
    | cons c rest => rw [List.takeWhile_cons_of_neg (by simp [hrest c rfl])]
  have hdrop : rest.dropWhile Char.isDigit = rest := by
    cases rest with
    | nil => rfl
    | cons c rest => rw [List.dropWhile_cons_of_neg (by simp [hrest c rfl])]
  have hall : ∀ c ∈ numeral n, c.isDigit = true := fun _ => isDigit_of_mem_numeral
  have hspan : spanDigits (numeral n ++ rest) = (numeral n, rest) := by
    rw [spanDigits, List.takeWhile_append_of_pos hall, List.dropWhile_append_of_pos hall, htake,
      hdrop, List.append_nil]
  by_cases hn : n = 0
  · subst hn
    rw [numeral, if_pos (by decide)]
    rfl
  · obtain ⟨c, cs, hnumeral, -, hc⟩ := exists_numeral n
    rw [hnumeral] at hspan ⊢
    rw [List.cons_append] at hspan ⊢
    rw [wholePart?, hspan]
    simpa using hc hn

/-- The numeral of a number is read as that number, unless it is too long. -/
theorem readUnsigned_numeral (negative : Bool) {n : Nat} (hn : digitCount n ≤ longestNumeral)
    {rest : List Char} (h : Ends rest) :
    readUnsigned negative (numeral n ++ rest) = .ok (.int (withSign negative n), rest) := by
  have hfraction : fractionPart rest = ([], rest) := by
    cases rest with
    | nil => rfl
    | cons c rest => rcases h c rfl with rfl | rfl | rfl <;> rfl
  have hexponent : exponentPart rest = (none, rest) := by
    cases rest with
    | nil => rfl
    | cons c rest => rcases h c rfl with rfl | rfl | rfl <;> rfl
  have hvalue : digitsValue 0 (numeral n) = n := by rw [digitsValue_numeral]; omega
  have hshort : ¬longestNumeral < (numeral n).length := Nat.not_lt.mpr hn
  simp [readUnsigned, wholePart?_numeral n h, hfraction, hexponent, hvalue, hshort]

/-- No word begins with a digit, with or without a minus sign before it. -/
theorem readPlain_digit {c : Char} (cs : List Char) (h : c.isDigit = true) :
    readPlain (c :: cs) = readUnsigned false (c :: cs) ∧
      readPlain ('-' :: c :: cs) = readUnsigned true (c :: cs) := by
  have hne : ∀ d : Char, d.isDigit = false → c ≠ d := fun d => ne_of_isDigit h
  have hdigit : ∀ (word : String) {w : Char} {ws : List Char}, word.toList = w :: ws →
      w.isDigit = false → afterWord? word (c :: cs) = none :=
    fun _ _ _ hword hw => afterWord?_eq_none hword (hne _ hw)
  have hminus : ∀ (word : String) {w : Char} {ws : List Char}, word.toList = w :: ws →
      '-' ≠ w → afterWord? word ('-' :: c :: cs) = none :=
    fun _ _ _ hword hw => afterWord?_eq_none hword hw
  have hinfinity : afterWord? "-Infinity" ('-' :: c :: cs) = none := by
    simp [afterWord?, (hne 'I' rfl).symm]
  constructor
  · simp only [readPlain, hdigit "null" rfl rfl, hdigit "true" rfl rfl, hdigit "false" rfl rfl,
      hdigit "NaN" rfl rfl, hdigit "Infinity" rfl rfl, hdigit "-Infinity" rfl rfl]
    split
    · rename_i hsign
      exact absurd (List.cons.inj hsign).1 (hne '-' rfl)
    · rfl
  · simp only [readPlain, hminus "null" rfl (by decide), hminus "true" rfl (by decide),
      hminus "false" rfl (by decide), hminus "NaN" rfl (by decide),
      hminus "Infinity" rfl (by decide), hinfinity]

namespace Reads

/-- A word that the reader knows reads as the value that it stands for. -/
theorem word {w : String} {c : Char} {cs : List Char} {v : Value} (hword : w.toList = c :: cs)
    (hopens : isOpening c = true) (hquote : c ≠ '"') (hlist : c ≠ '[') (hmap : c ≠ '\x7b')
    (hread : ∀ rest, readPlain (w.toList ++ rest) = .ok (v, rest)) : Reads w.toList v where
  opens := ⟨c, cs, hword, hopens⟩
  read := by
    intro fuel rest hfuel _
    have hplain := readValue_plain fuel (cs ++ rest) hquote hlist hmap
    rw [← List.cons_append, ← hword, hread] at hplain
    exact hplain

theorem null : Reads ['n', 'u', 'l', 'l'] .null :=
  word (w := "null") rfl rfl nofun nofun nofun fun rest => by
    simp only [readPlain, afterWord?_append]

theorem bool (b : Bool) :
    Reads (if b then ['t', 'r', 'u', 'e'] else ['f', 'a', 'l', 's', 'e']) (.bool b) := by
  cases b with
  | true =>
      refine word (w := "true") rfl rfl nofun nofun nofun fun rest => ?_
      have hnull : afterWord? "null" ("true".toList ++ rest) = none :=
        afterWord?_eq_none rfl (by decide)
      simp only [readPlain, hnull, afterWord?_append]
  | false =>
      refine word (w := "false") rfl rfl nofun nofun nofun fun rest => ?_
      have hnull : afterWord? "null" ("false".toList ++ rest) = none :=
        afterWord?_eq_none rfl (by decide)
      have htrue : afterWord? "true" ("false".toList ++ rest) = none :=
        afterWord?_eq_none rfl (by decide)
      simp only [readPlain, hnull, htrue, afterWord?_append]

theorem int {i : Int} (h : digitCount i.natAbs ≤ longestNumeral) :
    Reads (intNumeral i) (.int i) := by
  obtain ⟨c, cs, hnumeral, hdigit, -⟩ := exists_numeral i.natAbs
  have hne : ∀ d : Char, d.isDigit = false → c ≠ d := fun d => ne_of_isDigit hdigit
  have hunsigned : ∀ (negative : Bool) {rest : List Char}, Ends rest →
      readUnsigned negative (c :: cs ++ rest) = .ok (.int (withSign negative i.natAbs), rest) :=
    fun negative _ hrest => hnumeral ▸ readUnsigned_numeral negative h hrest
  unfold intNumeral
  rw [hnumeral]
  split
  · rename_i hnegative
    refine ⟨⟨'-', _, rfl, rfl⟩, fun {fuel rest} hfuel hrest => ?_⟩
    have hvalue : withSign true i.natAbs = i := by
      rw [withSign, if_pos rfl]
      omega
    rw [List.cons_append, readValue_plain _ _ (by decide) (by decide) (by decide), List.cons_append,
      (readPlain_digit _ hdigit).2, ← List.cons_append, hunsigned true hrest, hvalue]
  · rename_i hpositive
    refine ⟨⟨c, cs, rfl, isOpening_of_isDigit hdigit⟩, fun {fuel rest} hfuel hrest => ?_⟩
    have hvalue : withSign false i.natAbs = i := by
      rw [withSign, if_neg Bool.false_ne_true]
      omega
    rw [List.cons_append, readValue_plain _ _ (hne _ rfl) (hne _ rfl) (hne _ rfl),
      (readPlain_digit _ hdigit).1, ← List.cons_append, hunsigned false hrest, hvalue]

theorem string (s : String) : Reads (stringText s) (.string s) where
  opens := ⟨'"', _, rfl, rfl⟩
  read := by
    intro fuel rest hfuel _
    have hread := readString_stringText s rest
    simp only [stringText, List.cons_append, List.append_assoc, List.nil_append] at hread ⊢
    rw [readValue, hread]
    rfl

end Reads

/-! ## Lists -/

theorem length_joined_cons_cons (x y : List Char) (ys : List (List Char)) :
    (joined (x :: y :: ys)).length = x.length + 2 + (joined (y :: ys)).length := by
  simp only [joined, List.length_append, List.length_cons]
  omega

theorem opens_joined {t : List Char} (h : Opens t) (ts : List (List Char)) :
    Opens (joined (t :: ts)) := by
  cases ts with
  | nil => exact h
  | cons t' ts => exact h.append _

/-- Between two texts that are joined stand a comma and a space. -/
theorem joined_cons_cons_append (x y : List Char) (ys : List (List Char)) (rest : List Char) :
    joined (x :: y :: ys) ++ rest = x ++ ',' :: ' ' :: (joined (y :: ys) ++ rest) := by
  rw [joined, List.append_assoc, List.cons_append, List.cons_append]
  exact List.cons_ne_nil y ys

/-- Texts that read as values, joined by commas, are the items of a list. -/
theorem readItems_joined {ts : List (List Char)} {vs : List Value} (h : List.Forall₂ Reads ts vs)
    (hne : ts ≠ []) {fuel : Nat} (hfuel : (joined ts).length ≤ fuel) (rest : List Char) :
    readItems (fuel + 2) (joined ts ++ ']' :: rest) = .ok (vs, rest) := by
  induction h generalizing fuel with
  | nil => exact absurd rfl hne
  | @cons t v ts vs ht hts ih =>
      cases hts with
      | nil =>
          have hread : readValue (fuel + 1) (t ++ ']' :: rest) = .ok (v, ']' :: rest) :=
            ht.read hfuel (ends_cons (.inr (.inl rfl)))
          simp only [joined, readItems, hread]
          rfl
      | @cons t' v' ts vs ht' hts =>
          rw [length_joined_cons_cons] at hfuel
          obtain ⟨fuel, rfl⟩ : ∃ k, fuel = k + 1 := ⟨fuel - 1, by omega⟩
          have hread : readValue (fuel + 2)
              (t ++ ',' :: ' ' :: (joined (t' :: ts) ++ ']' :: rest)) =
              .ok (v, ',' :: ' ' :: (joined (t' :: ts) ++ ']' :: rest)) :=
            ht.read (by omega) (ends_cons (.inl rfl))
          have hspace : skipSpace (' ' :: (joined (t' :: ts) ++ ']' :: rest)) =
              joined (t' :: ts) ++ ']' :: rest := ((opens_joined ht'.opens ts).append _).skipSpace
          rw [joined_cons_cons_append, readItems, hread]
          change (readItems (fuel + 2)
            (skipSpace (' ' :: (joined (t' :: ts) ++ ']' :: rest))) >>= _) = _
          rw [hspace, ih (by simp) (by omega)]
          rfl

/-- A bracket that no closing bracket follows opens a list with items. -/
theorem readValue_bracket {cs : List Char} (h : Opens cs) (fuel : Nat) :
    readValue (fuel + 1) ('[' :: cs) =
      (readItems fuel cs >>= fun p => .ok (.list p.1, p.2)) := by
  rw [readValue, h.skipSpace]
  split
  · obtain ⟨c, _, hcs, hc⟩ := h
    obtain ⟨rfl, -⟩ := List.cons.inj hcs
    exact absurd hc (by decide)
  · rfl

/-- Texts that read as values make the text of their list. -/
theorem Reads.list {ts : List (List Char)} {vs : List Value} (h : List.Forall₂ Reads ts vs) :
    Reads ('[' :: joined ts ++ [']']) (.list vs) where
  opens := ⟨'[', _, rfl, rfl⟩
  read := by
    intro fuel rest hfuel _
    simp only [List.cons_append, List.length_cons, List.length_append, List.length_nil] at hfuel
    obtain ⟨fuel, rfl⟩ : ∃ k, fuel = k + 2 := ⟨fuel - 2, by omega⟩
    rw [List.cons_append, List.cons_append, List.append_assoc, List.singleton_append]
    cases h with
    | nil => rfl
    | @cons t v ts vs ht hts =>
        have hopens : Opens (joined (t :: ts)) := opens_joined ht.opens ts
        rw [readValue_bracket (hopens.append _),
          readItems_joined (.cons ht hts) (by simp) (by omega)]
        rfl

/-! ## Maps -/

/-- A named text reads as an entry of the same name. -/
structure ReadsEntry (t : String × List Char) (e : String × Value) : Prop where
  name : t.1 = e.1
  reads : Reads t.2 e.2

theorem opens_entryText (t : String × List Char) : Opens (entryText t) := ⟨'"', _, rfl, rfl⟩

theorem length_lt_length_entryText (t : String × List Char) :
    t.2.length < (entryText t).length := by
  simp only [entryText, stringText, List.length_append, List.length_cons]
  omega

/-- The text of an entry is read, and its value is put under its name. -/
theorem readEntries_entryText {t : String × List Char} {e : String × Value} (h : ReadsEntry t e)
    {fuel : Nat} (hfuel : (entryText t).length ≤ fuel + 1) {rest : List Char} (hrest : Ends rest)
    (acc : Row Value) :
    readEntries (fuel + 2) acc (entryText t ++ rest) =
      match skipSpace rest with
      | '\x7d' :: rest => .ok (acc.insert e.1 e.2, rest)
      | ',' :: rest => readEntries (fuel + 1) (acc.insert e.1 e.2) (skipSpace rest)
      | _ => .error .malformed := by
  have hlength := length_lt_length_entryText t
  obtain ⟨name, text⟩ := t
  obtain ⟨name', value⟩ := e
  obtain ⟨rfl, hreads⟩ := h
  have htext : entryText (name, text) ++ rest =
      '"' :: (stringBody name.toList ++ '"' :: (':' :: ' ' :: (text ++ rest))) := by
    simp only [entryText, stringText, List.cons_append, List.append_assoc, List.nil_append]
  have hname := readString_stringText name (':' :: ' ' :: (text ++ rest))
  have hvalue : readValue (fuel + 1) (text ++ rest) = .ok (value, rest) :=
    hreads.read (by omega) hrest
  have hspace : skipSpace (' ' :: (text ++ rest)) = text ++ rest :=
    (hreads.opens.append rest).skipSpace
  rw [htext, readEntries, hname]
  change (readValue (fuel + 1) (skipSpace (' ' :: (text ++ rest))) >>= _) = _
  rw [hspace, hvalue]
  rfl

/-- Texts that read as entries of different names, joined by commas, are the entries of a map. -/
theorem readEntries_joined {ts : List (String × List Char)} {es : List (String × Value)}
    (h : List.Forall₂ ReadsEntry ts es) (hne : ts ≠ []) {acc : Row Value}
    (hnames : ((acc ++ es).map Prod.fst).Nodup) {fuel : Nat}
    (hfuel : (joined (ts.map entryText)).length ≤ fuel + 1) (rest : List Char) :
    readEntries (fuel + 2) acc (joined (ts.map entryText) ++ '\x7d' :: rest) =
      .ok (acc ++ es, rest) := by
  induction h generalizing fuel acc with
  | nil => exact absurd rfl hne
  | @cons t e ts es ht hts ih =>
      have hfresh : e.1 ∉ acc.map Prod.fst := by
        intro hmem
        rw [List.map_append, List.map_cons] at hnames
        exact (List.nodup_append.mp hnames).2.2 _ hmem _ List.mem_cons_self rfl
      have hinsert : acc.insert e.1 e.2 = acc ++ [e] := Row.insert_of_notMem hfresh e.2
      cases hts with
      | nil =>
          simp only [List.map_cons, List.map_nil, joined] at hfuel ⊢
          rw [readEntries_entryText ht hfuel (ends_cons (.inr (.inr rfl))), hinsert]
          rfl
      | @cons t' e' ts es ht' hts =>
          simp only [List.map_cons, length_joined_cons_cons] at hfuel ⊢
          obtain ⟨fuel, rfl⟩ : ∃ k, fuel = k + 1 := ⟨fuel - 1, by omega⟩
          have hspace : skipSpace (' ' ::
              (joined (entryText t' :: ts.map entryText) ++ '\x7d' :: rest)) =
              joined (entryText t' :: ts.map entryText) ++ '\x7d' :: rest :=
            ((opens_joined (opens_entryText t') _).append _).skipSpace
          have hentries : readEntries (fuel + 2) (acc ++ [e])
              (joined (entryText t' :: ts.map entryText) ++ '\x7d' :: rest) =
              .ok (acc ++ [e] ++ e' :: es, rest) :=
            ih (by simp) (by rwa [List.append_assoc, List.singleton_append])
              (by simp only [List.map_cons]; omega)
          rw [joined_cons_cons_append, readEntries_entryText ht (by omega) (ends_cons (.inl rfl)),
            hinsert]
          change readEntries (fuel + 2) (acc ++ [e]) (skipSpace (' ' ::
            (joined (entryText t' :: ts.map entryText) ++ '\x7d' :: rest))) = _
          rw [hspace, hentries, List.append_assoc, List.singleton_append]

/-- A brace that no closing brace follows opens a map with entries. -/
theorem readValue_brace {cs : List Char} (h : Opens cs) (fuel : Nat) :
    readValue (fuel + 1) ('\x7b' :: cs) =
      (readEntries fuel [] cs >>= fun p => .ok (.map p.1, p.2)) := by
  rw [readValue, h.skipSpace]
  split
  · obtain ⟨c, _, hcs, hc⟩ := h
    obtain ⟨rfl, -⟩ := List.cons.inj hcs
    exact absurd hc (by decide)
  · rfl

/-- Texts that read as entries of different names make the text of their map. -/
theorem Reads.map {ts : List (String × List Char)} {es : List (String × Value)}
    (h : List.Forall₂ ReadsEntry ts es) (hnames : (es.map Prod.fst).Nodup) :
    Reads ('\x7b' :: joined (ts.map entryText) ++ ['\x7d']) (.map es) where
  opens := ⟨'\x7b', _, rfl, rfl⟩
  read := by
    intro fuel rest hfuel _
    simp only [List.cons_append, List.length_cons, List.length_append, List.length_nil] at hfuel
    obtain ⟨fuel, rfl⟩ : ∃ k, fuel = k + 2 := ⟨fuel - 2, by omega⟩
    rw [List.cons_append, List.cons_append, List.append_assoc, List.singleton_append]
    cases h with
    | nil => rfl
    | @cons t e ts es ht hts =>
        have hopens : Opens (joined ((t :: ts).map entryText)) :=
          opens_joined (opens_entryText t) (ts.map entryText)
        rw [readValue_brace (hopens.append _),
          readEntries_joined (.cons ht hts) (by simp) hnames (by omega)]
        rfl

end Json

end RecordMapper
