import RecordMapper.Naming
import RecordMapper.Proofs.Text.Division
import RecordMapper.Proofs.Text.Lowering

/-! # The words of a name

A name is divided twice, each time by patterns that take characters away from each other. Still each
character shows by its neighbours alone whether a word begins with it: all of these get an
underscore, and nothing else does. -/

namespace RecordMapper.Naming

open Text Text.Pattern

/-! ## Letters and digits -/

/-- Whether the character is an ASCII capital. -/
def isCapital (c : Char) : Bool := 'A' ≤ c && c ≤ 'Z'

/-- Whether the character is a small ASCII letter. -/
def isSmall (c : Char) : Bool := 'a' ≤ c && c ≤ 'z'

/-- Whether the character is a small ASCII letter or an ASCII digit. -/
def endsWord (c : Char) : Bool := isSmall c || ('0' ≤ c && c ≤ '9')

theorem isCapital_iff {c : Char} : isCapital c = true ↔ 65 ≤ c.toNat ∧ c.toNat ≤ 90 := by
  rw [isCapital, Bool.and_eq_true, decide_eq_true_eq, decide_eq_true_eq]
  rfl

theorem isSmall_iff {c : Char} : isSmall c = true ↔ 97 ≤ c.toNat ∧ c.toNat ≤ 122 := by
  rw [isSmall, Bool.and_eq_true, decide_eq_true_eq, decide_eq_true_eq]
  rfl

theorem endsWord_iff {c : Char} :
    endsWord c = true ↔ isSmall c = true ∨ 48 ≤ c.toNat ∧ c.toNat ≤ 57 := by
  rw [endsWord, Bool.or_eq_true, Bool.and_eq_true, decide_eq_true_eq, decide_eq_true_eq]
  rfl

theorem not_isCapital_of_endsWord {c : Char} (h : endsWord c = true) : isCapital c = false := by
  rw [Bool.eq_false_iff, ne_eq, isCapital_iff]
  rw [endsWord_iff, isSmall_iff] at h
  omega

theorem not_endsWord_of_isCapital {c : Char} (h : isCapital c = true) : endsWord c = false := by
  rw [Bool.eq_false_iff]
  intro hends
  rw [not_isCapital_of_endsWord hends] at h
  cases h

theorem not_isCapital_of_isSmall {c : Char} (h : isSmall c = true) : isCapital c = false :=
  not_isCapital_of_endsWord (endsWord_iff.mpr (.inl h))

theorem not_isSmall_of_isCapital {c : Char} (h : isCapital c = true) : isSmall c = false := by
  have hends := not_endsWord_of_isCapital h
  exact (Bool.or_eq_false_iff.mp hends).1

/-! ## What the patterns are found along -/

section

variable {c d : Cursor}

theorem way_capital_iff : Way capital c d ↔ ∃ ch, isCapital ch = true ∧ c.Reads [ch] d := by
  simp [capital, way_set_iff, CharItem.holds, isCapital_iff]

theorem way_small_iff : Way small c d ↔ ∃ ch, isSmall ch = true ∧ c.Reads [ch] d := by
  simp [small, way_set_iff, CharItem.holds, isSmall_iff]

theorem way_smallOrDigit_iff :
    Way smallOrDigit c d ↔ ∃ ch, endsWord ch = true ∧ c.Reads [ch] d := by
  simp [smallOrDigit, way_set_iff, CharItem.holds, endsWord_iff, isSmall_iff]

theorem way_capitals_iff :
    Way capitals c d ↔
      ∃ run : List Char, run ≠ [] ∧ (∀ ch ∈ run, isCapital ch = true) ∧ c.Reads run d := by
  simp [capitals, capital, way_repeat_set_iff, CharItem.holds, isCapital_iff,
    Nat.one_le_iff_ne_zero]

theorem way_capitalised_iff :
    Way capitalised c d ↔
      ∃ ch x, isCapital ch = true ∧ isSmall x = true ∧ c.Reads [ch, x] d := by
  constructor
  · rintro ⟨e, hcapital, hsmall⟩
    obtain ⟨ch, hch, hfirst⟩ := way_capital_iff.mp hcapital
    obtain ⟨x, hx, hsecond⟩ := way_small_iff.mp hsmall
    exact ⟨ch, x, hch, hx, hfirst.trans hsecond⟩
  · rintro ⟨ch, x, hch, hx, hreads⟩
    obtain ⟨e, hfirst, hsecond⟩ := Cursor.Reads.split (s := [ch]) hreads
    exact ⟨e, way_capital_iff.mpr ⟨ch, hch, hfirst⟩, way_small_iff.mpr ⟨x, hx, hsecond⟩⟩

end

/-! ## Capitals in a row -/

/-- Whether a capital and a small letter follow a capital. -/
def afterRun : Boundary
  | before, c :: d :: _ => before.any isCapital && isCapital c && isSmall d
  | _, _ => false

theorem afterRun_none (cs : List Char) : afterRun none cs = false := by
  unfold afterRun
  split <;> rfl

theorem afterRun_of_not_isCapital {before : Option Char} {c : Char} {cs : List Char}
    (h : isCapital c = false) : afterRun before (c :: cs) = false := by
  cases cs <;> simp [afterRun, h]

theorem afterRun_of_isSmall {x : Char} {cs : List Char} (h : isSmall x = true) :
    afterRun (some x) cs = false := by
  unfold afterRun
  split
  · simp [not_isCapital_of_isSmall h]
  · rfl

theorem exists_of_afterRun {before : Option Char} {cs : List Char}
    (h : afterRun before cs = true) :
    ∃ b c x rest, before = some b ∧ cs = c :: x :: rest ∧ isCapital b = true ∧
      isCapital c = true ∧ isSmall x = true := by
  unfold afterRun at h
  split at h
  · next before c x rest =>
      rw [Bool.and_eq_true, Bool.and_eq_true] at h
      obtain ⟨⟨hb, hc⟩, hx⟩ := h
      obtain ⟨b, rfl, hb⟩ := (Option.any_eq_true _ _).mp hb
      exact ⟨b, c, x, rest, rfl, rfl, hb, hc, hx⟩
  · cases h

theorem afterRun_of_not_isSmall {before : Option Char} {c x : Char} {cs : List Char}
    (h : isSmall x = false) : afterRun before (c :: x :: cs) = false := by
  simp [afterRun, h]

/-- Every capital of a run but the last one has a capital after it. -/
theorem afterRun_of_capitals {before : Option Char} {run cs : List Char} {c : Char}
    (hne : run ≠ []) (hrun : ∀ ch ∈ run, isCapital ch = true) (hc : isCapital c = true) :
    afterRun before (run ++ c :: cs) = false := by
  cases run with
  | nil => exact absurd rfl hne
  | cons a run =>
      cases run with
      | nil => exact afterRun_of_not_isSmall (not_isSmall_of_isCapital hc)
      | cons b run =>
          have hb : isCapital b = true := hrun b (by simp)
          exact afterRun_of_not_isSmall (not_isSmall_of_isCapital hb)

/-- In a run of capitals before a small letter, only the last one stands at a boundary. -/
theorem marked_afterRun {mark : Char} {before : Option Char} {run rest : List Char} {c x : Char}
    (hne : run ≠ []) (hrun : ∀ ch ∈ run, isCapital ch = true) (hc : isCapital c = true)
    (hx : isSmall x = true) :
    marked mark afterRun before (run ++ c :: x :: rest) =
      run ++ mark :: c :: x :: marked mark afterRun (some x) rest := by
  induction run generalizing before with
  | nil => exact absurd rfl hne
  | cons a run ih =>
      have hinside : afterRun before (a :: (run ++ c :: x :: rest)) = false :=
        afterRun_of_capitals hne hrun hc
      rw [List.cons_append, marked_of_no_boundary hinside, List.cons_append]
      cases run with
      | nil =>
          have ha : isCapital a = true := hrun a (by simp)
          have hboundary : afterRun (some a) (c :: x :: rest) = true := by
            simp [afterRun, ha, hc, hx]
          have hsmall := not_isCapital_of_isSmall hx
          rw [List.nil_append, marked_of_boundary hboundary,
            marked_of_no_boundary (afterRun_of_not_isCapital hsmall)]
          rfl
      | cons b run => rw [ih (by simp) fun ch hch => hrun ch (by simp [hch])]

theorem divides_runs : Divides capitals capitalised afterRun where
  exists_ways {position past d ds} h := by
    obtain ⟨b, c, x, rest, hbefore, rfl, hb, hc, hx⟩ := exists_of_afterRun h
    obtain rfl := Option.some.inj hbefore
    refine ⟨⟨position + 1, d :: past, c :: x :: rest, []⟩,
      ⟨position + 3, x :: c :: d :: past, rest, []⟩, ?_, ?_⟩
    · exact way_capitals_iff.mpr ⟨[d], by simp, by simpa using hb, rfl, rfl, rfl, rfl⟩
    · exact way_capitalised_iff.mpr ⟨c, x, hc, hx, rfl, rfl, rfl, rfl⟩
  length_lt hp hq := by
    obtain ⟨run, -, -, hrun⟩ := way_capitals_iff.mp hp
    obtain ⟨c, x, -, -, hpair⟩ := way_capitalised_iff.mp hq
    have := (hrun.trans hpair).length
    simp only [List.length_append, List.length_cons] at this
    omega
  marked_eq hp hq := by
    obtain ⟨run, hne, hcapitals, hrun⟩ := way_capitals_iff.mp hp
    obtain ⟨c, x, hc, hx, hpair⟩ := way_capitalised_iff.mp hq
    rw [hrun.textTo, hpair.textTo, hpair.before, hrun.rest, hpair.rest, List.cons_append,
      List.singleton_append, marked_afterRun hne hcapitals hc hx]
    simp
  no_boundary hp hq := by
    obtain ⟨c, x, -, hx, hpair⟩ := way_capitalised_iff.mp hq
    rw [hpair.before]
    exact afterRun_of_isSmall hx

/-! ## Capitals after small letters and digits -/

/-- Whether a capital follows a small letter or a digit. -/
def afterWord : Boundary
  | before, c :: _ => before.any endsWord && isCapital c
  | _, [] => false

theorem afterWord_none (cs : List Char) : afterWord none cs = false := by
  cases cs <;> rfl

theorem exists_of_afterWord {before : Option Char} {cs : List Char}
    (h : afterWord before cs = true) :
    ∃ b c rest, before = some b ∧ cs = c :: rest ∧ endsWord b = true ∧ isCapital c = true := by
  cases cs with
  | nil => cases h
  | cons c rest =>
      obtain ⟨hb, hc⟩ := Bool.and_eq_true_iff.mp h
      obtain ⟨b, rfl, hb⟩ := (Option.any_eq_true _ _).mp hb
      exact ⟨b, c, rest, rfl, rfl, hb, hc⟩

theorem afterWord_of_not_endsWord {b : Char} {cs : List Char} (h : endsWord b = false) :
    afterWord (some b) cs = false := by
  cases cs <;> simp [afterWord, h]

theorem afterWord_of_not_isCapital {before : Option Char} {c : Char} {cs : List Char}
    (h : isCapital c = false) : afterWord before (c :: cs) = false := by
  simp [afterWord, h]

theorem divides_words : Divides smallOrDigit capital afterWord where
  exists_ways {position past d ds} h := by
    obtain ⟨b, c, rest, hbefore, rfl, hb, hc⟩ := exists_of_afterWord h
    obtain rfl := Option.some.inj hbefore
    refine ⟨⟨position + 1, d :: past, c :: rest, []⟩, ⟨position + 2, c :: d :: past, rest, []⟩,
      ?_, ?_⟩
    · exact way_smallOrDigit_iff.mpr ⟨d, hb, rfl, rfl, rfl, rfl⟩
    · exact way_capital_iff.mpr ⟨c, hc, rfl, rfl, rfl, rfl⟩
  length_lt hp hq := by
    obtain ⟨b, -, hfirst⟩ := way_smallOrDigit_iff.mp hp
    obtain ⟨c, -, hsecond⟩ := way_capital_iff.mp hq
    have := (hfirst.trans hsecond).length
    simp only [List.length_append, List.length_cons] at this
    omega
  marked_eq hp hq := by
    obtain ⟨b, hb, hfirst⟩ := way_smallOrDigit_iff.mp hp
    obtain ⟨c, hc, hsecond⟩ := way_capital_iff.mp hq
    have hboundary : ∀ rest, afterWord (some b) (c :: rest) = true := by
      intro rest
      simp [afterWord, hb, hc]
    rw [hfirst.textTo, hsecond.textTo, hsecond.before, hfirst.rest, hsecond.rest,
      List.singleton_append, List.singleton_append,
      marked_of_no_boundary (afterWord_of_not_isCapital (not_isCapital_of_endsWord hb)),
      marked_of_boundary (hboundary _)]
    rfl
  no_boundary hp hq := by
    obtain ⟨c, hc, hsecond⟩ := way_capital_iff.mp hq
    rw [hsecond.before]
    exact afterWord_of_not_endsWord (not_endsWord_of_isCapital hc)

/-! ## Both at once -/

/-- Whether a word begins at a place. -/
def wordStart (before : Option Char) (cs : List Char) : Bool :=
  afterRun before cs || afterWord before cs

theorem wordStart_cons_iff {before : Option Char} {c : Char} {cs : List Char} :
    wordStart before (c :: cs) = true ↔ isCapital c = true ∧
      (before.any endsWord = true ∨
        before.any isCapital = true ∧ cs.head?.any isSmall = true) := by
  have hrun : afterRun before (c :: cs) =
      (before.any isCapital && isCapital c && cs.head?.any isSmall) := by
    cases cs <;> simp [afterRun]
  rw [wordStart, hrun, afterWord]
  simp only [Bool.or_eq_true, Bool.and_eq_true]
  grind

/-- Marks for the ends of runs hide no other boundary and make none. -/
theorem marked_marked (before : Option Char) (cs : List Char) :
    marked '_' afterWord before (marked '_' afterRun before cs) =
      marked '_' wordStart before cs := by
  induction cs generalizing before with
  | nil => rfl
  | cons c cs ih =>
      cases hrun : afterRun before (c :: cs) with
      | true =>
          obtain ⟨b, -, -, -, rfl, -, hb, -, -⟩ := exists_of_afterRun hrun
          have hmark : afterWord (some b) ('_' :: c :: marked '_' afterRun (some c) cs) = false :=
            afterWord_of_not_endsWord (not_endsWord_of_isCapital hb)
          have hfirst : afterWord (some '_') (c :: marked '_' afterRun (some c) cs) = false :=
            afterWord_of_not_endsWord (by decide)
          have hstart : wordStart (some b) (c :: cs) = true := by
            rw [wordStart, hrun, Bool.true_or]
          rw [marked_of_boundary hrun, marked_of_no_boundary hmark, marked_of_no_boundary hfirst,
            ih, marked_of_boundary hstart]
      | false =>
          -- whether a capital follows the end of a word does not depend on what comes after it
          have hsame : afterWord before (c :: marked '_' afterRun (some c) cs) =
              wordStart before (c :: cs) := by
            rw [wordStart, hrun, Bool.false_or]
            rfl
          rw [marked_of_no_boundary hrun]
          cases hstart : wordStart before (c :: cs) with
          | true => rw [marked_of_boundary (hsame.trans hstart), marked_of_boundary hstart, ih]
          | false =>
              rw [marked_of_no_boundary (hsame.trans hstart), marked_of_no_boundary hstart, ih]

theorem snakeCase_eq_marked (name : String) :
    snakeCase name = Text.lower (String.ofList (marked '_' wordStart none name.toList)) := by
  have hruns : divide '_' capitals capitalised name.toList =
      marked '_' afterRun none name.toList :=
    divides_runs.divideFrom_eq (afterRun_none _)
  have hwords : ∀ cs, divide '_' smallOrDigit capital cs = marked '_' afterWord none cs :=
    fun cs => divides_words.divideFrom_eq (afterWord_none cs)
  rw [snakeCase, hruns, hwords, marked_marked]

/-! ## Characters that begin a word -/

/-- Whether a word begins with the character of the number `i`. It is a capital and follows a small
letter or a digit, or it stands between another capital and a small letter. -/
def BeginsWord (cs : List Char) (i : Nat) : Prop :=
  0 < i ∧ cs[i]?.any isCapital = true ∧
    (cs[i - 1]?.any endsWord = true ∨
      cs[i - 1]?.any isCapital = true ∧ cs[i + 1]?.any isSmall = true)

instance (cs : List Char) (i : Nat) : Decidable (BeginsWord cs i) :=
  inferInstanceAs (Decidable (_ ∧ _ ∧ (_ ∨ _ ∧ _)))

/-- The text with an underscore before each character that begins a word. -/
def underscored (cs : List Char) : List Char :=
  cs.zipIdx.flatMap fun (c, i) => if BeginsWord cs i then ['_', c] else [c]

theorem beginsWord_append_iff {front : List Char} {c : Char} {cs : List Char} :
    BeginsWord (front ++ c :: cs) front.length ↔ wordStart front.getLast? (c :: cs) = true := by
  rw [wordStart_cons_iff]
  rcases List.eq_nil_or_concat front with rfl | ⟨front, b, rfl⟩
  · simp [BeginsWord]
  · have hafter : (front ++ b :: c :: cs)[front.length + 1 + 1]? = cs.head? := by
      rw [Nat.add_assoc, List.getElem?_append_right (Nat.le_add_right _ _),
        Nat.add_sub_cancel_left, List.head?_eq_getElem?]
      rfl
    simp [BeginsWord, hafter]

theorem not_beginsWord_append {front : List Char} {c : Char} {cs : List Char}
    (h : wordStart front.getLast? (c :: cs) = false) :
    ¬ BeginsWord (front ++ c :: cs) front.length := by
  rw [beginsWord_append_iff, h]
  decide

theorem marked_wordStart (front cs : List Char) :
    marked '_' wordStart front.getLast? cs =
      (cs.zipIdx front.length).flatMap fun (c, i) =>
        if BeginsWord (front ++ cs) i then ['_', c] else [c] := by
  induction cs generalizing front with
  | nil => rfl
  | cons c cs ih =>
      have hmore := ih (front ++ [c])
      rw [List.append_assoc, List.singleton_append, List.length_append, List.length_singleton,
        List.getLast?_concat] at hmore
      rw [List.zipIdx_cons, List.flatMap_cons, ← hmore]
      dsimp only
      cases hstart : wordStart front.getLast? (c :: cs) with
      | true =>
          rw [marked_of_boundary hstart, if_pos (beginsWord_append_iff.mpr hstart)]
          rfl
      | false =>
          rw [marked_of_no_boundary hstart, if_neg (not_beginsWord_append hstart)]
          rfl

/-- A name becomes the small letters of the name with an underscore before each character that
begins a word. -/
theorem snakeCase_eq (name : String) :
    snakeCase name = Text.lower (String.ofList (underscored name.toList)) := by
  rw [snakeCase_eq_marked]
  exact congrArg (fun cs => Text.lower (String.ofList cs)) (marked_wordStart [] name.toList)

example : snakeCase "getHTTPResponse2XX" = "get_http_response2_xx" := by cbv

/-! ## Small letters

A capital sigma has two small forms and its neighbours decide. An underscore stands between letters
and digits, which it does not look past, and so it decides nothing. -/

theorem ascii_of_isCapital {c : Char} (h : isCapital c = true) : c.toNat < 0x80 := by
  rw [isCapital_iff] at h
  omega

theorem not_ignorable_of_isCapital {c : Char} (h : isCapital c = true) :
    caseIgnorableRanges.contains c = false := by
  obtain ⟨hlow, hhigh⟩ := isCapital_iff.mp h
  exact Ranges.not_contains_of_clear hlow hhigh (by decide +kernel)

theorem not_ignorable_of_endsWord {c : Char} (h : endsWord c = true) :
    caseIgnorableRanges.contains c = false := by
  rcases endsWord_iff.mp h with hsmall | ⟨hlow, hhigh⟩
  · obtain ⟨hlow, hhigh⟩ := isSmall_iff.mp hsmall
    exact Ranges.not_contains_of_clear hlow hhigh (by decide +kernel)
  · exact Ranges.not_contains_of_clear hlow hhigh (by decide +kernel)

theorem isCapital_or_endsWord_of_wordStart {b : Char} {cs : List Char} (h : wordStart (some b) cs = true) :
    isCapital b = true ∨ endsWord b = true := by
  cases cs with
  | nil => cases h
  | cons c cs =>
      rcases (wordStart_cons_iff.mp h).2 with hword | ⟨hcapital, -⟩
      · exact .inr hword
      · exact .inl hcapital

theorem casedNext_marked {before : Option Char} {cs : List Char}
    (h : wordStart before cs = false) :
    casedNext (marked '_' wordStart before cs) = casedNext cs := by
  induction cs generalizing before with
  | nil => rfl
  | cons c cs ih =>
      rw [marked_of_no_boundary h]
      by_cases hc : caseIgnorableRanges.contains c = true
      · have hnext : wordStart (some c) cs = false := by
          rw [Bool.eq_false_iff]
          intro hstart
          have hnot : caseIgnorableRanges.contains c = false :=
            (isCapital_or_endsWord_of_wordStart hstart).elim not_ignorable_of_isCapital
              not_ignorable_of_endsWord
          rw [hc] at hnot
          cases hnot
        rw [casedNext_cons_of_ignorable hc, casedNext_cons_of_ignorable hc, ih hnext]
      · rw [Bool.not_eq_true] at hc
        rw [casedNext_cons_of_not_ignorable hc, casedNext_cons_of_not_ignorable hc]

theorem lowerFrom_marked {before : List Char} (front cs : List Char)
    (h : casedNext before = casedNext front.reverse) :
    lowerFrom before (marked '_' wordStart front.getLast? cs) =
      (cs.zipIdx front.length).flatMap fun (c, i) =>
        (if BeginsWord (front ++ cs) i then ['_'] else []) ++
          lowerChar ((front ++ cs).take i).reverse c ((front ++ cs).drop (i + 1)) := by
  induction cs generalizing before front with
  | nil => rfl
  | cons c cs ih =>
      have hfront : (front ++ [c]).reverse = c :: front.reverse := by simp
      have hmore {before' : List Char} (h' : casedNext before' = casedNext (c :: front.reverse)) :=
        ih (front ++ [c]) (h'.trans (congrArg casedNext hfront.symm))
      simp only [List.append_assoc, List.singleton_append, List.length_append,
        List.length_singleton, List.getLast?_concat] at hmore
      have hafter : (front ++ c :: cs).drop (front.length + 1) = cs := by
        rw [← List.drop_drop, List.drop_left]
        rfl
      rw [List.zipIdx_cons, List.flatMap_cons]
      dsimp only
      rw [List.take_left, hafter]
      cases hstart : wordStart front.getLast? (c :: cs) with
      | true =>
          have hcapital := (wordStart_cons_iff.mp hstart).1
          have hascii := ascii_of_isCapital hcapital
          have hnot := not_ignorable_of_isCapital hcapital
          have hseen : casedNext (c :: '_' :: before) = casedNext (c :: front.reverse) := by
            rw [casedNext_cons_of_not_ignorable hnot, casedNext_cons_of_not_ignorable hnot]
          rw [marked_of_boundary hstart, if_pos (beginsWord_append_iff.mpr hstart), lowerFrom,
            lowerFrom, lowerChar_of_ascii (by decide), lowerChar_of_ascii hascii,
            lowerChar_of_ascii hascii, hmore hseen]
          rfl
      | false =>
          have hsigma : c = 'Σ' →
              casedNext (marked '_' wordStart (some c) cs) = casedNext cs := by
            rintro rfl
            apply casedNext_marked
            rw [Bool.eq_false_iff]
            intro hnext
            exact absurd (isCapital_or_endsWord_of_wordStart hnext) (by decide)
          rw [marked_of_no_boundary hstart, if_neg (not_beginsWord_append hstart), lowerFrom,
            lowerChar_congr h hsigma, hmore (casedNext_cons_congr h)]
          rfl

/-- Each character of a name becomes the small form it has in the name itself. -/
theorem toList_snakeCase (name : String) :
    (snakeCase name).toList = name.toList.zipIdx.flatMap fun (c, i) =>
      (if BeginsWord name.toList i then ['_'] else []) ++
        lowerChar (name.toList.take i).reverse c (name.toList.drop (i + 1)) := by
  rw [snakeCase_eq_marked, Text.lower, String.toList_ofList, String.toList_ofList]
  exact lowerFrom_marked [] name.toList rfl

end RecordMapper.Naming
