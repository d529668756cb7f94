import Mathlib.Data.List.Chain
import RecordMapper.Proofs.Fragment.Closed

/-! # Fragments in one pass

A fragment is taken exactly when a scan from left to right ends outside quotes. Its slots are the
question marks that the scan meets outside quotes and not directly behind a backslash, and its texts
are the characters between them. -/

namespace RecordMapper.Fragment

open Text

/-! ## The scan -/

/-- What a character of a fragment stands for. -/
inductive Sign where
  | kept (c : Char)
  | slot
deriving DecidableEq

/-- What a character stands for, by the quote that is open before it and by its neighbours; a
backslash that is dropped stands for nothing. -/
def signsOf (quote previous : Option Char) (c : Char) (next : Option Char) : List Sign :=
  if c = '?' ∧ quote = none ∧ previous ≠ some '\\' then [.slot]
  else if c = '\\' ∧ quote = none ∧ next = some '?' then []
  else [.kept c]

/-- What the characters of a text stand for, from left to right. -/
def signs (quote previous : Option Char) : List Char → List Sign
  | [] => []
  | c :: cs => signsOf quote previous c cs.head? ++ signs (quoteAfter quote c) (some c) cs

/-- What a fragment stands for. -/
def signsIn (text : String) : List Sign := signs none none text.toList

/-- The quote that is open at the end of a fragment. -/
def openAtEnd (text : String) : Option Char := quoteAtEnd none text.toList

/-- A backslash matters only before a question mark. -/
theorem signs_previous {previous : Option Char} {cs : List Char}
    (h : previous = some '\\' → cs.head? ≠ some '?') (quote : Option Char) :
    signs quote previous cs = signs quote none cs := by
  cases cs with
  | nil => rfl
  | cons c cs =>
      have hc : previous = some '\\' → c ≠ '?' := fun hp hc => h hp (by rw [hc]; rfl)
      have hsigns : signsOf quote previous c cs.head? = signsOf quote none c cs.head? := by
        unfold signsOf
        grind
      rw [signs, signs, hsigns]

/-- A quoted region stands for itself. -/
theorem signs_quoted {quote : Char} (hquote : quote = '\'' ∨ quote = '"') {body : List Char}
    (h : Quoted quote body) (previous : Option Char) (rest : List Char) :
    signs (some quote) previous (body ++ rest) = body.map .kept ++ signs none none rest := by
  have hne : quote ≠ '?' ∧ quote ≠ '\\' := by rcases hquote with rfl | rfl <;> decide
  have hrest : signs none (some quote) rest = signs none none rest :=
    signs_previous (fun h => absurd (Option.some.inj h) hne.2) none
  induction h generalizing previous with
  | close => simp [signs, signsOf, quoteAfter, hrest]
  | other hc _ ih => simp [signs, signsOf, quoteAfter, hc, ih]
  | doubled _ ih => simp [signs, signsOf, quoteAfter, hne, hquote.symm, ih]

/-- A row of plain characters stands for itself. -/
theorem signs_plain {cs : List Char} (h : ∀ c ∈ cs, isPlain c = true) (previous : Option Char)
    (hprevious : previous ≠ some '\\') (rest : List Char) :
    signs none previous (cs ++ rest) = cs.map .kept ++ signs none none rest := by
  induction cs generalizing previous with
  | nil => simpa using signs_previous (fun h => absurd h hprevious) none
  | cons c cs ih =>
      obtain ⟨hc, hcs⟩ := List.forall_mem_cons.mp h
      have hne : c ≠ '?' ∧ c ≠ '\'' ∧ c ≠ '"' ∧ c ≠ '\\' := by simpa [isPlain, and_assoc] using hc
      have hnext := ih hcs (some c) (by simpa using hne.2.2.2)
      simp [signs, signsOf, quoteAfter, hne, hnext]

/-! ## Tokens under the scan -/

/-- What a token stands for. -/
def tokenSigns (t : FragmentToken) : List Sign :=
  if t.kind = .slot then [.slot] else t.chars.map .kept

/-- The scan goes over a token and is outside quotes behind it. -/
theorem signs_token {kind : FragmentTokenKind} {lexeme cs : List Char}
    (h : Takes (lexeme ++ cs) kind lexeme) (place : Nat) :
    quoteAtEnd none lexeme = none ∧
      signs none none (lexeme ++ cs) =
        tokenSigns ⟨kind, content kind lexeme, place⟩ ++ signs none none cs := by
  obtain ⟨-, hform, -, before, after, horder, hfirst⟩ := h
  cases hform with
  | escapedSlot =>
      refine ⟨by decide, ?_⟩
      have hrest : signs none (some '?') cs = signs none none cs := signs_previous (by simp) none
      simp [signs, signsOf, quoteAfter, tokenSigns, content, hrest]
  | slot =>
      refine ⟨by decide, ?_⟩
      have hrest : signs none (some '?') cs = signs none none cs := signs_previous (by simp) none
      simp [signs, signsOf, quoteAfter, tokenSigns, hrest]
  | string hbody =>
      refine ⟨quoteAtEnd_quoted (.inl rfl) hbody, ?_⟩
      have hregion := signs_quoted (.inl rfl) hbody (some '\'') cs
      simp [signs, signsOf, quoteAfter, tokenSigns, content, hregion]
  | quotedName hbody =>
      refine ⟨quoteAtEnd_quoted (.inr rfl) hbody, ?_⟩
      have hregion := signs_quoted (.inr rfl) hbody (some '"') cs
      simp [signs, signsOf, quoteAfter, tokenSigns, content, hregion]
  | plain _ hplain =>
      refine ⟨quoteAtEnd_of_no_quote fun c hc => ?_, ?_⟩
      · have hc := hplain c hc
        simp_all [isPlain, isQuote]
      · simpa [tokenSigns, content] using signs_plain hplain none (by simp) cs
  | backslash =>
      refine ⟨by decide, ?_⟩
      -- The escaped slot was tried first, so no question mark follows.
      have hhead : cs.head? ≠ some '?' := by
        intro hhead
        have hbefore : FragmentTokenKind.escapedSlot ∈ before := by
          cases before with
          | nil => cases (List.cons.inj horder).1
          | cons k before =>
              rw [← (List.cons.inj horder).1]
              exact List.mem_cons_self
        obtain ⟨ds, rfl⟩ := List.head?_eq_some_iff.mp hhead
        exact hfirst _ hbefore ['\\', '?'] ⟨ds, rfl⟩ .escapedSlot
      have hrest : signs none (some '\\') cs = signs none none cs :=
        signs_previous (fun _ => hhead) none
      simp [signs, signsOf, quoteAfter, tokenSigns, content, hhead, hrest]

/-- A quote that is left open: before it everything is closed, and it does not come again. -/
structure LeftOpen (place : Nat) (cs : List Char) (e : OpenQuote) : Prop where
  isQuote : isQuote e.quote = true
  split : ∃ front back, cs = front ++ e.quote :: back ∧ quoteAtEnd none front = none ∧
    e.quote ∉ back ∧ e.position = place + front.length

/-- Tokens are read to the end: the scan ends outside quotes and has gone over the tokens. -/
theorem signs_of_lexes {place : Nat} {cs : List Char} {ts : List FragmentToken}
    (h : Lexes place cs (.ok ts)) :
    quoteAtEnd none cs = none ∧ ts.flatMap tokenSigns = signs none none cs := by
  generalize hr : (Except.ok ts : Except OpenQuote (List FragmentToken)) = r at h
  induction h generalizing ts with
  | done => cases hr; exact ⟨rfl, rfl⟩
  | @token place _ _ _ _ htakes _ ih =>
      obtain ⟨us, rfl, rfl⟩ := Outcome.map_eq_ok_iff.mp hr.symm
      obtain ⟨hend, hsigns⟩ := signs_token htakes place
      obtain ⟨hclosed, hrest⟩ := ih rfl
      exact ⟨by rw [quoteAtEnd_append, hend, hclosed], by rw [hsigns, List.flatMap_cons, hrest]⟩
  | stuck => cases hr

/-- No token begins at a quote that is left open. -/
theorem leftOpen_of_lexes {place : Nat} {cs : List Char} {e : OpenQuote}
    (h : Lexes place cs (.error e)) : LeftOpen place cs e := by
  generalize hr : (Except.error e : Except OpenQuote (List FragmentToken)) = r at h
  induction h with
  | done => cases hr
  | @token place _ lexeme _ _ htakes _ ih =>
      obtain ⟨hquote, front, back, rfl, hfront, hback, hposition⟩ :=
        ih (Outcome.map_eq_error_iff.mp hr.symm).symm
      refine ⟨hquote, lexeme ++ front, back, (List.append_assoc ..).symm, ?_, hback, ?_⟩
      · rw [quoteAtEnd_append, (signs_token htakes place).1, hfront]
      · rw [hposition, List.length_append, Nat.add_assoc]
  | @stuck place c cs hnone =>
      cases hr
      have hquote : c = '\'' ∨ c = '"' := by
        by_contra hc
        by_cases hslot : c = '?'
        · exact hnone .slot [c] (by simp) (hslot ▸ .slot)
        by_cases hbackslash : c = '\\'
        · exact hnone .text [c] (by simp) (hbackslash ▸ .backslash)
        have hplain : isPlain c = true := by simp_all [isPlain]
        exact hnone .text [c] (by simp) (.plain (List.cons_ne_nil _ _) (by simpa using hplain))
      refine ⟨by simpa [Text.isQuote, or_comm] using hquote, [], cs, rfl, rfl, fun hmem => ?_, rfl⟩
      obtain ⟨body, hpre, hbody⟩ := exists_quoted hmem
      have hregion : c :: body <+: c :: cs := List.cons_prefix_cons.mpr ⟨rfl, hpre⟩
      rcases hquote with rfl | rfl
      · exact hnone .string _ hregion (.string hbody)
      · exact hnone .quotedName _ hregion (.quotedName hbody)

/-- The quote that is left open is the one that the scan ends in. -/
theorem LeftOpen.quoteAtEnd {place : Nat} {cs : List Char} {e : OpenQuote}
    (h : LeftOpen place cs e) : quoteAtEnd none cs = some e.quote := by
  obtain ⟨hquote, front, back, rfl, hfront, hback, -⟩ := h
  have hstays : ∀ ds : List Char, e.quote ∉ ds →
      Text.quoteAtEnd (some e.quote) ds = some e.quote := by
    intro ds hds
    induction ds with
    | nil => rfl
    | cons d ds ih =>
        obtain ⟨hd, hds⟩ := List.ne_and_not_mem_of_not_mem_cons hds
        simpa [quoteAfter, Ne.symm hd] using ih hds
  have hopen : quoteAfter none e.quote = some e.quote := by
    have heither : e.quote = '"' ∨ e.quote = '\'' := by simpa [Text.isQuote] using hquote
    simp [quoteAfter, heither]
  rw [quoteAtEnd_append, hfront, quoteAtEnd_cons, hopen, hstays back hback]

/-! ## Parts -/

namespace Part

/-- What a part stands for. -/
def signs : Part → List Sign
  | .text chars => chars.map .kept
  | .slot => [.slot]

/-- Whether a part is text. -/
def isText : Part → Bool
  | .text _ => true
  | .slot => false

end Part

/-- The parts that signs make. -/
def ofSigns : List Sign → List Part
  | [] => []
  | .kept c :: ss => consText [c] (ofSigns ss)
  | .slot :: ss => .slot :: ofSigns ss

theorem consText_cons (c : Char) (cs : List Char) (ps : List Part) :
    consText [c] (consText cs ps) = consText (c :: cs) ps := by
  cases ps with
  | nil => rfl
  | cons p ps => cases p <;> rfl

theorem ofSigns_kept {cs : List Char} (h : cs ≠ []) (ss : List Sign) :
    ofSigns (cs.map .kept ++ ss) = consText cs (ofSigns ss) := by
  induction cs with
  | nil => exact absurd rfl h
  | cons c cs ih =>
      cases cs with
      | nil => rfl
      | cons d cs =>
          rw [List.map_cons, List.cons_append, ofSigns, ih (List.cons_ne_nil _ _), consText_cons]

/-- Joining tokens is joining what they stand for. -/
theorem join_eq_ofSigns {ts : List FragmentToken} (h : ∀ t ∈ ts, t.chars ≠ []) :
    join ts = ofSigns (ts.flatMap tokenSigns) := by
  induction ts with
  | nil => rfl
  | cons t ts ih =>
      obtain ⟨ht, hts⟩ := List.forall_mem_cons.mp h
      rw [join, List.flatMap_cons, ih hts]
      by_cases hkind : t.kind = .slot
      · rw [if_pos hkind, tokenSigns, if_pos hkind]
        rfl
      · rw [if_neg hkind, tokenSigns, if_neg hkind, ofSigns_kept ht]

theorem chars_ne_nil_of_lexes {place : Nat} {cs : List Char} {ts : List FragmentToken}
    (h : Lexes place cs (.ok ts)) : ∀ t ∈ ts, t.chars ≠ [] := by
  generalize hr : (Except.ok ts : Except OpenQuote (List FragmentToken)) = r at h
  induction h generalizing ts with
  | done => cases hr; simp
  | @token place kind lexeme _ _ htakes _ ih =>
      obtain ⟨us, rfl, rfl⟩ := Outcome.map_eq_ok_iff.mp hr.symm
      refine List.forall_mem_cons.mpr ⟨?_, ih rfl⟩
      dsimp only [content]
      split
      · exact List.cons_ne_nil _ _
      · exact htakes.form.ne_nil
  | stuck => cases hr

/-- Parts of which no text is empty and no two texts are neighbours. -/
structure Parted (ps : List Part) : Prop where
  text_ne_nil : ∀ chars, .text chars ∈ ps → chars ≠ []
  apart : ps.IsChain fun p q => ¬ (p.isText = true ∧ q.isText = true)

theorem Parted.of_cons {p : Part} {ps : List Part} (h : Parted (p :: ps)) : Parted ps :=
  ⟨fun chars hchars => h.text_ne_nil chars (List.mem_cons_of_mem p hchars), h.apart.tail⟩

theorem Parted.slot_cons {ps : List Part} (h : Parted ps) : Parted (.slot :: ps) := by
  refine ⟨fun chars hchars => h.text_ne_nil chars ?_, List.isChain_cons.mpr ⟨?_, h.apart⟩⟩
  · simpa using hchars
  · simp [Part.isText]

theorem Parted.consText {ps : List Part} (h : Parted ps) {cs : List Char} (hcs : cs ≠ []) :
    Parted (consText cs ps) := by
  cases ps with
  | nil => exact ⟨by simpa [Fragment.consText] using hcs, List.isChain_singleton _⟩
  | cons p ps =>
      cases p with
      | text more =>
          obtain ⟨hhead, htail⟩ := List.isChain_cons.mp h.apart
          refine ⟨fun chars hchars => ?_, List.isChain_cons.mpr ⟨hhead, htail⟩⟩
          rcases List.mem_cons.mp hchars with hchars | hchars
          · simp_all
          · exact h.of_cons.text_ne_nil chars hchars
      | slot =>
          refine ⟨fun chars hchars => ?_, List.isChain_cons.mpr ⟨by simp [Part.isText], h.apart⟩⟩
          rcases List.mem_cons.mp hchars with hchars | hchars
          · simp_all
          · exact h.text_ne_nil chars hchars

theorem parted_ofSigns (ss : List Sign) : Parted (ofSigns ss) := by
  induction ss with
  | nil => exact ⟨nofun, .nil⟩
  | cons s ss ih =>
      cases s with
      | kept c => exact ih.consText (List.cons_ne_nil c [])
      | slot => exact ih.slot_cons

theorem signs_consText (cs : List Char) (ps : List Part) :
    (consText cs ps).flatMap Part.signs = cs.map .kept ++ ps.flatMap Part.signs := by
  cases ps with
  | nil => rfl
  | cons p ps => cases p <;> simp [consText, Part.signs]

theorem signs_ofSigns (ss : List Sign) : (ofSigns ss).flatMap Part.signs = ss := by
  induction ss with
  | nil => rfl
  | cons s ss ih =>
      cases s with
      | kept c => simp [ofSigns, signs_consText, ih]
      | slot => simp [ofSigns, Part.signs, ih]

/-- Parts that are parted are made by what they stand for. -/
theorem ofSigns_signs {ps : List Part} (h : Parted ps) : ofSigns (ps.flatMap Part.signs) = ps := by
  induction ps with
  | nil => rfl
  | cons p ps ih =>
      rw [List.flatMap_cons]
      cases p with
      | slot => rw [Part.signs, List.singleton_append, ofSigns, ih h.of_cons]
      | text chars =>
          rw [Part.signs, ofSigns_kept (h.text_ne_nil chars List.mem_cons_self), ih h.of_cons]
          cases ps with
          | nil => rfl
          | cons q qs =>
              have hq := (List.isChain_cons_cons.mp h.apart).1
              cases q with
              | slot => rfl
              | text => simp [Part.isText] at hq

theorem slotCount_ofSigns (ss : List Sign) : slotCount (ofSigns ss) = ss.count .slot := by
  have hconsText : ∀ (c : Char) (ps : List Part), slotCount (consText [c] ps) = slotCount ps := by
    intro c ps
    cases ps with
    | nil => rfl
    | cons p ps => cases p <;> rfl
  induction ss with
  | nil => rfl
  | cons s ss ih =>
      cases s with
      | kept c => rw [ofSigns, hconsText, ih, List.count_cons_of_ne (by simp)]
      | slot => simp_all [ofSigns, slotCount]

/-! ## Numbered parts -/

namespace NumberedPart

/-- A part without its number. -/
def plain : NumberedPart → Part
  | .text chars => .text chars
  | .slot _ => .slot

/-- The number of a slot. -/
def number? : NumberedPart → Option Nat
  | .text _ => none
  | .slot n => some n

/-- What a part stands for. -/
def signs (p : NumberedPart) : List Sign := p.plain.signs

/-- Whether a part is text. -/
def isText (p : NumberedPart) : Bool := p.plain.isText

end NumberedPart

/-- Parts that stand for a row of signs: the slots are numbered from 0 in order, no text is empty,
and no two texts are neighbours. -/
structure Shows (ps : List NumberedPart) (ss : List Sign) : Prop where
  signs : ps.flatMap NumberedPart.signs = ss
  numbers : ps.filterMap NumberedPart.number? = List.range (ss.count .slot)
  text_ne_nil : ∀ chars, .text chars ∈ ps → chars ≠ []
  apart : ps.IsChain fun p q => ¬ (p.isText = true ∧ q.isText = true)

theorem map_plain_number (next : Nat) (ps : List Part) :
    (number next ps).map NumberedPart.plain = ps := by
  induction ps generalizing next with
  | nil => rfl
  | cons p ps ih => cases p <;> simp [number, NumberedPart.plain, ih]

theorem filterMap_number (next : Nat) (ps : List Part) :
    (number next ps).filterMap NumberedPart.number? = List.range' next (slotCount ps) := by
  induction ps generalizing next with
  | nil => rfl
  | cons p ps ih =>
      cases p with
      | text chars =>
          have hcount : slotCount (.text chars :: ps) = slotCount ps := by simp [slotCount]
          rw [number, List.filterMap_cons_none rfl, hcount, ih next]
      | slot =>
          have hcount : slotCount (.slot :: ps) = slotCount ps + 1 := by simp [slotCount]
          have hnumber : (NumberedPart.slot next).number? = some next := rfl
          rw [number, List.filterMap_cons_some hnumber, hcount, List.range'_succ, ih (next + 1)]

/-- Parts whose numbers go up one by one are numbered so. -/
theorem number_map_plain {next count : Nat} {ps : List NumberedPart}
    (h : ps.filterMap NumberedPart.number? = List.range' next count) :
    number next (ps.map NumberedPart.plain) = ps := by
  induction ps generalizing next count with
  | nil => rfl
  | cons p ps ih =>
      cases p with
      | text chars =>
          rw [List.filterMap_cons_none rfl] at h
          rw [List.map_cons, NumberedPart.plain, number, ih h]
      | slot n =>
          have hnumber : (NumberedPart.slot n).number? = some n := rfl
          rw [List.filterMap_cons_some hnumber] at h
          cases count with
          | zero => cases h
          | succ count =>
              rw [List.range'_succ] at h
              obtain ⟨rfl, hrest⟩ := List.cons.inj h
              rw [List.map_cons, NumberedPart.plain, number, ih hrest]

/-- The parts that stand for signs are those that the signs make, numbered from 0. -/
theorem shows_iff {ps : List NumberedPart} {ss : List Sign} :
    Shows ps ss ↔ ps = number 0 (ofSigns ss) := by
  have hsigns : ∀ qs : List NumberedPart, qs.flatMap NumberedPart.signs =
      (qs.map NumberedPart.plain).flatMap Part.signs := by
    intro qs
    rw [List.flatMap_map]
    rfl
  constructor
  · rintro ⟨rfl, hnumbers, hne, hapart⟩
    have hparted : Parted (ps.map NumberedPart.plain) := by
      refine ⟨fun chars hchars => ?_, (List.isChain_map _).mpr hapart⟩
      obtain ⟨p, hp, hplain⟩ := List.mem_map.mp hchars
      cases p with
      | text more => exact hne chars (by cases hplain; exact hp)
      | slot n => cases hplain
    rw [List.range_eq_range'] at hnumbers
    rw [hsigns, ofSigns_signs hparted, number_map_plain hnumbers]
  · rintro rfl
    have hparted := parted_ofSigns ss
    rw [← map_plain_number 0 (ofSigns ss)] at hparted
    refine ⟨?_, ?_, fun chars hchars => ?_, (List.isChain_map _).mp hparted.apart⟩
    · rw [hsigns, map_plain_number, signs_ofSigns]
    · rw [filterMap_number, slotCount_ofSigns, List.range_eq_range']
    · exact hparted.text_ne_nil chars (List.mem_map.mpr ⟨_, hchars, rfl⟩)

/-! ## Fragments -/

/-- A fragment is split when the scan ends outside quotes, into the parts that the scan shows. -/
theorem split_cases (text : String) :
    (openAtEnd text = none ∧ split text = .ok (ofSigns (signsIn text))) ∨
      ∃ e, openAtEnd text = some e.quote ∧ LeftOpen 0 text.toList e ∧ split text = .error e := by
  have hlexes := lexes_scan 0 text.toList
  cases hscan : scan 0 text.toList with
  | ok ts =>
      rw [hscan] at hlexes
      obtain ⟨hclosed, hsigns⟩ := signs_of_lexes hlexes
      refine .inl ⟨hclosed, ?_⟩
      rw [split, tokens, hscan, signsIn, ← hsigns, ← join_eq_ofSigns (chars_ne_nil_of_lexes hlexes)]
      rfl
  | error e =>
      rw [hscan] at hlexes
      have hopen := leftOpen_of_lexes hlexes
      refine .inr ⟨e, hopen.quoteAtEnd, hopen, ?_⟩
      rw [split, tokens, hscan]
      rfl

/-- Reading a fragment is scanning it once. It is refused exactly when the scan ends inside a quote,
for that quote where it was left open; otherwise its parts stand for what the scan shows, and its
slots are counted by it. The tokens are those of the forms, tried in order and taken as long as they
can be. -/
theorem numberedParts_scan (text : String) :
    Lexes 0 text.toList (tokens text) ∧
      ((∃ e, numberedParts text = .error e) ↔ openAtEnd text ≠ none) ∧
      (∀ e, numberedParts text = .error e →
        openAtEnd text = some e.quote ∧ LeftOpen 0 text.toList e) ∧
      (∀ ps, numberedParts text = .ok ps ↔ openAtEnd text = none ∧ Shows ps (signsIn text)) ∧
      ∀ n, countSlots text = .ok n ↔ openAtEnd text = none ∧ n = (signsIn text).count .slot := by
  refine ⟨lexes_scan 0 text.toList, ?_⟩
  rw [numberedParts, countSlots]
  rcases split_cases text with ⟨hclosed, hsplit⟩ | ⟨e, hopen, hleft, hsplit⟩
  · rw [hsplit, hclosed]
    simp [Except.map, shows_iff, slotCount_ofSigns, eq_comm]
  · rw [hsplit, hopen]
    simp [Except.map, hleft]

end RecordMapper.Fragment
