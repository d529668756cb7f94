import RecordMapper.Proofs.Schema.Lexemes
import RecordMapper.Schema.Resolve

/-! # Texts in quotes

A text is written between quotes with a backslash in front of every backslash and every quote, and
with its line breaks as escapes. It is read as one token, which holds a character for each byte of
the text in UTF-8. -/

namespace RecordMapper.Lexer

open Text

/-! ## Written texts -/

/-- A character of a text between quotes. -/
def writtenChar (c : Char) : List Char :=
  if c = '\\' ∨ c = '"' then ['\\', c]
  else if c = '\n' then ['\\', 'n']
  else [c]

/-- A text between quotes. -/
def literal (s : String) : String := String.ofList ('"' :: s.toList.flatMap writtenChar ++ ['"'])

/-- A text with a character for each of its bytes. -/
def bytewise (s : String) : String := String.ofList ((s.toList.flatMap utf8Bytes).map Char.ofNat)

theorem quoted_written (cs : List Char) : Quoted (cs.flatMap writtenChar) := by
  induction cs with
  | nil => exact .nil
  | cons c cs ih =>
      rw [List.flatMap_cons, writtenChar]
      split_ifs with hescape hbreak
      · refine .escape ?_ ih
        rcases hescape with rfl | rfl <;> decide
      · exact .escape (by decide) ih
      · obtain ⟨hbackslash, hquote⟩ := not_or.mp hescape
        exact .plain hquote hbackslash ih

theorem unescapeUnits_written (cs : List Char) :
    unescapeUnits (cs.flatMap writtenChar) = some (cs.flatMap utf8Bytes) := by
  induction cs with
  | nil => rw [List.flatMap_nil, unescapeUnits, List.flatMap_nil]
  | cons c cs ih =>
      rw [List.flatMap_cons, List.flatMap_cons, writtenChar]
      split_ifs with hescape hbreak
      · have hmeaning : ∀ rest, escapeMeaning c rest = .code c.toNat 0 := by
          intro rest
          simp only [escapeMeaning, letterEscape?]
          grind
        have hbytes : utf8Bytes c = [c.toNat] := by
          rcases hescape with rfl | rfl <;> decide
        simp [unescapeUnits, hmeaning, ih, hbytes]
      · have hmeaning : ∀ rest, escapeMeaning 'n' rest = .code 0xa 0 := fun rest => rfl
        have hbytes : utf8Bytes '\n' = [0xa] := by decide
        simp [unescapeUnits, hmeaning, ih, hbreak, hbytes]
      · rw [List.singleton_append, unescapeUnits, ih]
        · rfl
        · exact fun _ _ h _ => hescape (.inl h)
        · exact fun h _ => hescape (.inl h)

/-- Numbers that are no halves of pairs are characters of their own. -/
theorem joinPairs_eq_map {ns : List Nat} (h : ∀ n ∈ ns, n < 0xd800) :
    joinPairs ns = ns.map Char.ofNat := by
  have hunit : ∀ n < 0xd800, unitChar n = Char.ofNat n := by
    intro n hn
    rw [unitChar, if_neg (by omega)]
  fun_induction joinPairs ns with
  | case1 => rfl
  | case2 n => simp_all
  | case3 n m rest hpair ih =>
      have hn := h n (by simp)
      simp only [isHighUnit, Bool.and_eq_true, decide_eq_true_eq] at hpair
      omega
  | case4 n m rest hpair ih =>
      rw [ih fun k hk => h k (List.mem_cons_of_mem n hk), hunit n (h n (by simp))]
      rfl

theorem lt_of_mem_utf8Bytes {c : Char} {n : Nat} (h : n ∈ utf8Bytes c) : n < 0x100 := by
  obtain ⟨b, -, rfl⟩ := List.mem_map.mp h
  exact b.toNat_lt

theorem unescape?_written (s : String) :
    unescape? (s.toList.flatMap writtenChar) = some (bytewise s) := by
  have hunits : ∀ n ∈ s.toList.flatMap utf8Bytes, n < 0xd800 := by
    intro n hn
    obtain ⟨c, -, hc⟩ := List.mem_flatMap.mp hn
    exact (lt_of_mem_utf8Bytes hc).trans (by decide)
  rw [unescape?, unescapeUnits_written, Option.map_some, joinPairs_eq_map hunits, bytewise]

/-! ## Texts of one byte for each character -/

theorem utf8Bytes_of_lt {c : Char} (h : c.toNat < 0x80) : utf8Bytes c = [c.toNat] := by
  have hle : c.toNat ≤ 127 := Nat.le_of_lt_succ h
  have hlt : c.toNat < 256 := by omega
  simp [utf8Bytes, String.utf8EncodeChar, hle, hlt]

theorem length_utf8Bytes (c : Char) : (utf8Bytes c).length = c.utf8Size := by
  rw [utf8Bytes, List.length_map, String.length_utf8EncodeChar]

theorem utf8Size_eq_one_iff {c : Char} : c.utf8Size = 1 ↔ c.toNat < 0x80 := by
  rw [Char.utf8Size_eq_one_iff, UInt32.le_iff_toNat_le]
  exact Nat.lt_succ_iff.symm

theorem length_le_length_bytes (cs : List Char) : cs.length ≤ (cs.flatMap utf8Bytes).length := by
  induction cs with
  | nil => exact Nat.le_refl 0
  | cons c cs ih =>
      have hpos := c.utf8Size_pos
      rw [List.flatMap_cons, List.length_append, length_utf8Bytes, List.length_cons]
      omega

/-- As many bytes as characters means one byte for each. -/
theorem ascii_of_length_bytes {cs : List Char} (h : (cs.flatMap utf8Bytes).length = cs.length) :
    ∀ c ∈ cs, c.toNat < 0x80 := by
  induction cs with
  | nil => nofun
  | cons c cs ih =>
      have hpos := c.utf8Size_pos
      have hrest := length_le_length_bytes cs
      rw [List.flatMap_cons, List.length_append, length_utf8Bytes, List.length_cons] at h
      exact List.forall_mem_cons.mpr ⟨utf8Size_eq_one_iff.mp (by omega), ih (by omega)⟩

/-- A text is its bytes exactly when all of its characters are ASCII. -/
theorem bytewise_eq_self_iff {s : String} : bytewise s = s ↔ ∀ c ∈ s.toList, c.toNat < 0x80 := by
  constructor
  · intro h
    have hlength := congrArg (fun t => t.toList.length) h
    simp only [bytewise, String.toList_ofList, List.length_map] at hlength
    exact ascii_of_length_bytes hlength
  · intro h
    have hbytes : s.toList.flatMap utf8Bytes = s.toList.map Char.toNat := by
      rw [List.map_eq_flatMap]
      exact List.flatMap_congr fun c hc => utf8Bytes_of_lt (h c hc)
    rw [bytewise, hbytes, List.map_map]
    simp [Function.comp_def]

/-! ## Reading -/

section

variable {line position : Nat} {rest : List Char}

/-- A token and what is read behind it. -/
def consToken (t : Token) (read : List Token × Option LexError) : List Token × Option LexError :=
  (t :: read.1, read.2)

theorem scan_token {c : Char} {cs : List Char} {lexeme : Lexeme}
    (h : piece c (cs ++ rest) = .token lexeme cs.length) :
    scan line position (c :: cs ++ rest) =
      consToken ⟨lexeme, line, position⟩ (scan line (position + (c :: cs).length) rest) := by
  rw [List.cons_append, scan]
  simp only [h, List.drop_left, consToken]
  rfl

/-- A literal is read as one token. -/
theorem scan_literal (s : String) :
    scan line position ((literal s).toList ++ rest) =
      consToken ⟨.string (bytewise s), line, position⟩
        (scan line (position + (literal s).toList.length) rest) := by
  have hspells := Spells.string (quoted_written s.toList) (unescape?_written s)
  rw [literal, String.toList_ofList, List.cons_append]
  exact scan_token (piece_of_spells hspells trivial)

theorem scan_space {c : Char} {cs : List Char} (h : c = ' ' ∨ c = '\t' ∨ c = '\r') :
    scan line position (c :: cs) = scan line (position + 1) cs := by
  have hpiece : piece c cs = .blank 0 := by rw [piece, if_pos h]
  rw [scan]
  simp only [hpiece, List.drop_zero, Nat.add_zero]

theorem scan_blank (cs : List Char) :
    scan line position (' ' :: cs) = scan line (position + 1) cs := scan_space (.inl rfl)

theorem scan_mark (m : Mark) (cs : List Char) :
    scan line position (m.char :: cs) =
      consToken ⟨.mark m, line, position⟩ (scan line (position + 1) cs) := by
  exact @scan_token line position cs m.char [] (.mark m) (piece_mark m)

/-- A word: a first character that begins names, and others that continue them. -/
def IsWord (w : String) : Prop :=
  ∃ c cs, w.toList = c :: cs ∧ beginsName c = true ∧ ∀ d ∈ cs, continuesName d = true

/-- A word is read up to a character that continues no name. -/
theorem scan_word {w : String} (h : IsWord w) {d : Char} (hd : continuesName d = false)
    (cs : List Char) :
    scan line position (w.toList ++ d :: cs) =
      consToken ⟨((Keyword.ofWord? w).map Lexeme.keyword).getD (.identifier w), line, position⟩
        (scan line (position + w.toList.length) (d :: cs)) := by
  obtain ⟨c, more, hw, hc, hmore⟩ := h
  have hrest : ∀ e es, d :: cs = e :: es → continuesName e = false := by
    intro e es heq
    rwa [← (List.cons.inj heq).1]
  have hword : String.ofList (c :: more) = w := by rw [← hw, String.ofList_toList]
  rw [hw]
  refine scan_token ?_
  rw [piece_of_beginsName hc, namePiece_of_ends hmore hrest, hword, wordLexeme]
  cases Keyword.ofWord? w <;> rfl

end

/-! ## Relations and defaults -/

/-- A schema with a relation and a default that are written between quotes. -/
def quotingSchema (name relation field default : String) : String :=
  "schema " ++ name ++ " as " ++ literal relation ++ " \x7b " ++ field ++ ": string = " ++
    literal default ++ " \x7d"

/-- A name: a word that is not reserved. -/
def IsName (w : String) : Prop := IsWord w ∧ Keyword.ofWord? w = none

theorem isWord_of_all {w : String} {c : Char} {cs : List Char} (hw : w.toList = c :: cs)
    (hc : beginsName c = true) (hcs : cs.all continuesName = true) : IsWord w :=
  ⟨c, cs, hw, hc, List.all_eq_true.mp hcs⟩

/-- The relation and the default of a schema are the texts that its literals are read as. -/
theorem ofText_quotingSchema {name field : String} (hname : IsName name) (hfield : IsName field)
    (relation default : String) :
    Declaration.ofText (quotingSchema name relation field default) = .ok
      [⟨name, some (bytewise relation),
        [.field ⟨field, 1, "string", false, false, .string (bytewise default)⟩]⟩] := by
  have hschema : IsWord "schema" := isWord_of_all rfl rfl rfl
  have has : IsWord "as" := isWord_of_all rfl rfl rfl
  have hstring : IsWord "string" := isWord_of_all rfl rfl rfl
  have hblank : continuesName ' ' = false := rfl
  have hcolon : continuesName (Mark.colon).char = false := rfl
  have htext : (quotingSchema name relation field default).toList =
      "schema".toList ++ ' ' :: (name.toList ++ ' ' :: ("as".toList ++ ' ' ::
        ((literal relation).toList ++ ' ' :: Mark.leftBrace.char :: ' ' :: (field.toList ++
          Mark.colon.char :: ' ' :: ("string".toList ++ ' ' :: Mark.equals.char :: ' ' ::
            ((literal default).toList ++ [' ', Mark.rightBrace.char])))))) := by
    unfold quotingSchema
    simp [Mark.char]
  rw [Declaration.ofText, Token.scan, htext, scan_word hschema hblank, scan_blank,
    scan_word hname.1 hblank, scan_blank, scan_word has hblank, scan_blank, scan_literal,
    scan_blank, scan_mark, scan_blank, scan_word hfield.1 hcolon, scan_mark, scan_blank,
    scan_word hstring hblank, scan_blank, scan_mark, scan_blank, scan_literal, scan_blank,
    scan_mark, scan, hname.2, hfield.2]
  rfl

/-- A text between quotes is read as one token, wherever it stands, and the relations and defaults
of a schema text are what is read. But what is read has a character for each byte of the text in
UTF-8, and is the text exactly when that is ASCII. -/
theorem literal_bytewise (s : String) :
    (∀ line position rest, scan line position ((literal s).toList ++ rest) =
      consToken ⟨.string (bytewise s), line, position⟩
        (scan line (position + (literal s).toList.length) rest)) ∧
      Token.ofText (literal s) = .ok [⟨.string (bytewise s), 1, 0⟩] ∧
      (bytewise s = s ↔ ∀ c ∈ s.toList, c.toNat < 0x80) ∧
      ∀ name field other, IsName name → IsName field →
        Declaration.ofText (quotingSchema name s field other) = .ok
          [⟨name, some (bytewise s),
            [.field ⟨field, 1, "string", false, false, .string (bytewise other)⟩]⟩] := by
  refine ⟨fun line position rest => scan_literal s, ?_, bytewise_eq_self_iff,
    fun name field other hname hfield => ofText_quotingSchema hname hfield s other⟩
  have hscan : Token.scan (literal s) = ([⟨.string (bytewise s), 1, 0⟩], none) := by
    rw [Token.scan, ← List.append_nil (literal s).toList, scan_literal, scan]
    rfl
  rw [Token.ofText, hscan]

/-- An accent becomes two characters, in a relation and in a default; quotes, backslashes and line
breaks arrive. -/
theorem literal_bytewise_accent :
    Declaration.ofText
        "schema User as \"caf\u00e9\" \x7b motto: string = \"\\\"\\\\\\n\u00e9\\\"\" \x7d" = .ok
      [⟨"User", some "caf\u00c3\u00a9",
        [.field ⟨"motto", 1, "string", false, false, .string "\"\\\n\u00c3\u00a9\""⟩]⟩] := by
  have hname : IsName "User" := ⟨isWord_of_all rfl rfl rfl, by decide⟩
  have hfield : IsName "motto" := ⟨isWord_of_all rfl rfl rfl, by decide⟩
  have hschema := (literal_bytewise "caf\u00e9").2.2.2 "User" "motto" "\"\\\n\u00e9\"" hname hfield
  have hrelation : bytewise "caf\u00e9" = "caf\u00c3\u00a9" := by decide
  have hdefault : bytewise "\"\\\n\u00e9\"" = "\"\\\n\u00c3\u00a9\"" := by decide
  rw [hrelation, hdefault] at hschema
  exact hschema

end RecordMapper.Lexer
