import RecordMapper.Text.Pattern.Attempt
import RecordMapper.Text.Pattern.Search

/-! # Ways to find a pattern

What a pattern describes is a relation between places: there is a way from one to the other. Trying
the pattern before a demand fails just when the demand fails after every way. -/

namespace RecordMapper.Text.Pattern

/-! ## Places further on -/

/-- A text leads from one place to another, and no group is found on it. -/
structure Cursor.Reads (c : Cursor) (text : List Char) (d : Cursor) : Prop where
  rest : c.rest = text ++ d.rest
  position : d.position = c.position + text.length
  past : d.past = text.reverse ++ c.past
  groups : d.groups = c.groups

/-- A place does not stand after another one of the same text. -/
structure Cursor.Precedes (c d : Cursor) : Prop where
  position : c.position ≤ d.position
  length : d.position + d.rest.length = c.position + c.rest.length

namespace Cursor

theorem Reads.refl (c : Cursor) : c.Reads [] c := ⟨by simp, by simp, by simp, rfl⟩

theorem Reads.trans {c d e : Cursor} {s t : List Char} (hs : c.Reads s d) (ht : d.Reads t e) :
    c.Reads (s ++ t) e where
  rest := by rw [hs.rest, ht.rest, List.append_assoc]
  position := by rw [ht.position, hs.position, List.length_append, Nat.add_assoc]
  past := by rw [ht.past, hs.past, List.reverse_append, List.append_assoc]
  groups := ht.groups.trans hs.groups

theorem Reads.unique {c d e : Cursor} {text : List Char} (hd : c.Reads text d)
    (he : c.Reads text e) : d = e := by
  have hrest : d.rest = e.rest := List.append_cancel_left (hd.rest.symm.trans he.rest)
  have hposition : d.position = e.position := hd.position.trans he.position.symm
  have hpast : d.past = e.past := hd.past.trans he.past.symm
  have hgroups : d.groups = e.groups := hd.groups.trans he.groups.symm
  cases d
  cases e
  simp_all

theorem Reads.split {c e : Cursor} {s t : List Char} (h : c.Reads (s ++ t) e) :
    ∃ d, c.Reads s d ∧ d.Reads t e := by
  refine ⟨⟨c.position + s.length, s.reverse ++ c.past, t ++ e.rest, c.groups⟩, ?_, ?_⟩
  · exact ⟨by rw [h.rest, List.append_assoc], rfl, rfl, rfl⟩
  · refine ⟨rfl, ?_, ?_, h.groups⟩
    · rw [h.position, List.length_append, Nat.add_assoc]
    · rw [h.past, List.reverse_append, List.append_assoc]

theorem Reads.before {c d : Cursor} {text : List Char} (h : c.Reads text d) :
    d.before = text.getLast?.or c.before := by
  rw [Cursor.before, h.past, List.head?_append, List.head?_reverse]
  rfl

theorem Reads.length {c d : Cursor} {text : List Char} (h : c.Reads text d) :
    c.rest.length = text.length + d.rest.length := by
  rw [h.rest, List.length_append]

theorem Precedes.refl (c : Cursor) : c.Precedes c := ⟨Nat.le_refl _, rfl⟩

theorem Precedes.trans {c d e : Cursor} (h : c.Precedes d) (h' : d.Precedes e) : c.Precedes e :=
  ⟨Nat.le_trans h.position h'.position, h'.length.trans h.length⟩

/-- Between two places that are not as far there is a character. -/
theorem Precedes.length_lt {c d : Cursor} (h : c.Precedes d) (hne : d.position ≠ c.position) :
    d.rest.length < c.rest.length := by
  have := h.position
  have := h.length
  omega

theorem Reads.precedes {c d : Cursor} {text : List Char} (h : c.Reads text d) : c.Precedes d := by
  have := h.length
  have := h.position
  constructor <;> omega

theorem next?_eq_some_iff {c d : Cursor} {test : Char → Bool} :
    c.next? test = some d ↔ ∃ ch, test ch = true ∧ c.Reads [ch] d := by
  obtain ⟨position, past, rest, groups⟩ := c
  cases rest with
  | nil =>
      constructor
      · intro h
        cases h
      · rintro ⟨ch, -, hreads⟩
        cases hreads.rest
  | cons ch rest =>
      have hnext : Reads ⟨position, past, ch :: rest, groups⟩ [ch]
          ⟨position + 1, ch :: past, rest, groups⟩ := ⟨rfl, rfl, rfl, rfl⟩
      simp only [next?]
      constructor
      · intro h
        split at h
        · next htest =>
            obtain rfl := Option.some.inj h
            exact ⟨ch, htest, hnext⟩
        · cases h
      · rintro ⟨ch', htest, hreads⟩
        obtain rfl : ch = ch' := (List.cons.inj hreads.rest).1
        rw [if_pos htest, hnext.unique hreads]

theorem precedes_of_next? {c d : Cursor} {test : Char → Bool} (h : c.next? test = some d) :
    c.Precedes d := by
  obtain ⟨ch, -, hreads⟩ := next?_eq_some_iff.mp h
  exact hreads.precedes

theorem precedes_of_follow? {casing : Casing} {text : List Char} {c d : Cursor}
    (h : c.follow? casing text = some d) : c.Precedes d := by
  induction text generalizing c with
  | nil =>
      obtain rfl := Option.some.inj h
      exact .refl c
  | cons t ts ih =>
      obtain ⟨e, he, hmore⟩ := Option.bind_eq_some_iff.mp h
      exact (precedes_of_next? he).trans (ih hmore)

theorem precedes_of_looked {c d : Cursor} {negated : Bool} {seen : Option Cursor}
    (h : c.looked negated seen = some d) : c.Precedes d := by
  unfold looked at h
  split at h
  · obtain rfl := Option.some.inj h
    exact ⟨Nat.le_refl _, rfl⟩
  · obtain rfl := Option.some.inj h
    exact .refl c
  · cases h

end Cursor

/-! ## Repetitions -/

/-- A relation between places, a number of times in a row. -/
inductive Repeated (R : Cursor → Cursor → Prop) : Nat → Cursor → Cursor → Prop
  | zero (c : Cursor) : Repeated R 0 c c
  | succ {n : Nat} {c d e : Cursor} (first : R c d) (more : Repeated R n d e) :
      Repeated R (n + 1) c e

/-- A relation between places, up to a number of times in a row. A time without a character is the
last one. -/
inductive Further (R : Cursor → Cursor → Prop) : Option Nat → Cursor → Cursor → Prop
  | stop (left : Option Nat) (c : Cursor) : Further R left c c
  | still {left : Option Nat} {c d : Cursor} (hleft : left ≠ some 0) (last : R c d)
      (same : d.position = c.position) : Further R left c d
  | more {left : Option Nat} {c d e : Cursor} (hleft : left ≠ some 0) (first : R c d)
      (moved : d.position ≠ c.position) (more : Further R (left.map (· - 1)) d e) :
      Further R left c e

section

variable {R : Cursor → Cursor → Prop} {c d : Cursor}

theorem Repeated.precedes (hR : ∀ c d, R c d → c.Precedes d) {n : Nat} (h : Repeated R n c d) :
    c.Precedes d := by
  induction h with
  | zero c => exact .refl c
  | succ first _ ih => exact (hR _ _ first).trans ih

theorem Further.precedes (hR : ∀ c d, R c d → c.Precedes d) {left : Option Nat}
    (h : Further R left c d) : c.Precedes d := by
  induction h with
  | stop left c => exact .refl c
  | still _ last _ => exact hR _ _ last
  | more _ first _ _ ih => exact (hR _ _ first).trans ih

variable {test : Char → Bool}

/-- Characters that pass a test, one after the other. -/
theorem Repeated.next?_iff {n : Nat} :
    Repeated (fun c d => c.next? test = some d) n c d ↔
      ∃ run : List Char, run.length = n ∧ (∀ ch ∈ run, test ch = true) ∧ c.Reads run d := by
  constructor
  · intro h
    induction h with
    | zero c => exact ⟨[], rfl, by simp, .refl c⟩
    | succ first _ ih =>
        obtain ⟨ch, htest, hfirst⟩ := Cursor.next?_eq_some_iff.mp first
        obtain ⟨run, hlength, hall, hmore⟩ := ih
        refine ⟨ch :: run, by simp [hlength], ?_, hfirst.trans hmore⟩
        simpa using ⟨htest, hall⟩
  · rintro ⟨run, rfl, hall, hreads⟩
    induction run generalizing c with
    | nil =>
        rw [hreads.unique (.refl c)]
        exact .zero c
    | cons ch run ih =>
        obtain ⟨e, hfirst, hmore⟩ := Cursor.Reads.split (s := [ch]) hreads
        apply Repeated.succ
        · exact Cursor.next?_eq_some_iff.mpr ⟨ch, hall ch (by simp), hfirst⟩
        · exact ih (fun x hx => hall x (by simp [hx])) hmore

/-- Without an upper bound, and with characters each time, there is any number of times. -/
theorem Further.unbounded_iff (hmoved : ∀ c d, R c d → d.position ≠ c.position) :
    Further R none c d ↔ ∃ n, Repeated R n c d := by
  constructor
  · intro h
    generalize hleft : (none : Option Nat) = left at h
    induction h with
    | stop left c => exact ⟨0, .zero c⟩
    | still _ last hsame => exact absurd hsame (hmoved _ _ last)
    | more _ first _ _ ih =>
        obtain ⟨n, hmore⟩ := ih (by rw [← hleft]; rfl)
        exact ⟨n + 1, .succ first hmore⟩
  · rintro ⟨n, h⟩
    induction h with
    | zero c => exact .stop none c
    | succ first _ ih => exact .more (by simp) first (hmoved _ _ first) ih

theorem Further.next?_iff :
    Further (fun c d => c.next? test = some d) none c d ↔
      ∃ run : List Char, (∀ ch ∈ run, test ch = true) ∧ c.Reads run d := by
  have hmoved : ∀ c d : Cursor, c.next? test = some d → d.position ≠ c.position := by
    intro c d h
    obtain ⟨ch, -, hreads⟩ := Cursor.next?_eq_some_iff.mp h
    simp [hreads.position]
  rw [Further.unbounded_iff hmoved]
  constructor
  · rintro ⟨n, h⟩
    obtain ⟨run, -, hall, hreads⟩ := Repeated.next?_iff.mp h
    exact ⟨run, hall, hreads⟩
  · rintro ⟨run, hall, hreads⟩
    exact ⟨run.length, Repeated.next?_iff.mpr ⟨run, rfl, hall, hreads⟩⟩

end

/-! ## Ways -/

/-- There is a way to find a pattern from one place to another. What has been decided for good is
found in the first way only. -/
def Way : Pattern → Cursor → Cursor → Prop
  | .empty, c, d => d = c
  | .any, c, d => c.next? (· != '\n') = some d
  | .set items negated, c, d => (c.next? fun ch => (items.any (·.holds ch)) != negated) = some d
  | .anchor a, c, d => c.meets a = true ∧ d = c
  | .seq p q, c, e => ∃ d, Way p c d ∧ Way q d e
  | .alt p q, c, d => Way p c d ∨ Way q c d
  | .repeat p least most _, c, e =>
    ∃ d, Repeated (Way p) least c d ∧ Further (Way p) (most.map (· - least)) d e
  | .committed p, c, d => firstEnd p c = some d
  | .group number p, c, e => ∃ d, Way p c d ∧ e = d.keep number (c.textTo d)
  | .same number casing, c, d => ((c.kept? number).bind fun t => c.follow? casing t) = some d
  | .look back negated p, c, d => c.looked negated ((c.back? back).bind (firstEnd p)) = some d
  | .ifGroup number p q, c, d => if (c.kept? number).isSome then Way p c d else Way q c d

theorem way_set_iff {items : List CharItem} {negated : Bool} {c d : Cursor} :
    Way (.set items negated) c d ↔
      ∃ ch, (items.any (·.holds ch) != negated) = true ∧ c.Reads [ch] d :=
  Cursor.next?_eq_some_iff

/-- A set without an upper bound is found along every run of its characters. -/
theorem way_repeat_set_iff {items : List CharItem} {negated seldom : Bool} {least : Nat}
    {c d : Cursor} :
    Way (.repeat (.set items negated) least none seldom) c d ↔
      ∃ run : List Char, least ≤ run.length ∧
        (∀ ch ∈ run, (items.any (·.holds ch) != negated) = true) ∧ c.Reads run d := by
  constructor
  · rintro ⟨e, hrepeated, hfurther⟩
    obtain ⟨front, rfl, hfront, hfirst⟩ := Repeated.next?_iff.mp hrepeated
    obtain ⟨back, hback, hmore⟩ := Further.next?_iff.mp hfurther
    refine ⟨front ++ back, by simp, ?_, hfirst.trans hmore⟩
    intro ch hch
    exact (List.mem_append.mp hch).elim (hfront ch) (hback ch)
  · rintro ⟨run, hleast, hall, hreads⟩
    rw [← List.take_append_drop least run] at hreads
    obtain ⟨e, hfirst, hmore⟩ := hreads.split
    refine ⟨e, Repeated.next?_iff.mpr ⟨run.take least, List.length_take_of_le hleast, ?_, hfirst⟩,
      Further.next?_iff.mpr ⟨run.drop least, ?_, hmore⟩⟩
    · exact fun ch hch => hall ch (List.mem_of_mem_take hch)
    · exact fun ch hch => hall ch (List.mem_of_mem_drop hch)

/-! ## What is found -/

section Trials

variable {trial : Trial} {R : Cursor → Cursor → Prop} {k : Demand}

/-- What one more time, or none, gives. -/
theorem upTo_cons_eq_some {seldom : Bool} {x : Char} {fuel : List Char} {left : Option Nat}
    {c e : Cursor} (h : upTo trial seldom (x :: fuel) left c k = some e) :
    k c = some e ∨ left ≠ some 0 ∧
      trial c (fun d => if d.position = c.position then k d
        else upTo trial seldom fuel (left.map (· - 1)) d k) = some e := by
  simp only [upTo] at h
  by_cases hleft : left = some 0
  · simp only [hleft, if_true, Option.or_none, Option.none_or, ite_self] at h
    exact .inl h
  · rw [if_neg hleft] at h
    cases seldom with
    | true =>
        rcases Option.or_eq_some_iff.mp h with h | ⟨-, h⟩
        · exact .inl h
        · exact .inr ⟨hleft, h⟩
    | false =>
        rcases Option.or_eq_some_iff.mp h with h | ⟨-, h⟩
        · exact .inr ⟨hleft, h⟩
        · exact .inl h

theorem upTo_cons_eq_none {seldom : Bool} {x : Char} {fuel : List Char} {left : Option Nat}
    {c : Cursor} (h : upTo trial seldom (x :: fuel) left c k = none) :
    k c = none ∧ (left ≠ some 0 →
      trial c (fun d => if d.position = c.position then k d
        else upTo trial seldom fuel (left.map (· - 1)) d k) = none) := by
  simp only [upTo] at h
  cases seldom with
  | true =>
      obtain ⟨hk, hagain⟩ := Option.or_eq_none_iff.mp h
      exact ⟨hk, fun hleft => by rwa [if_neg hleft] at hagain⟩
  | false =>
      obtain ⟨hagain, hk⟩ := Option.or_eq_none_iff.mp h
      exact ⟨hk, fun hleft => by rwa [if_neg hleft] at hagain⟩

theorem exists_of_times
    (htrial : ∀ c k e, trial c k = some e → ∃ d, R c d ∧ k d = some e)
    {n : Nat} {c e : Cursor} (h : times trial n c k = some e) :
    ∃ d, Repeated R n c d ∧ k d = some e := by
  induction n generalizing c with
  | zero => exact ⟨c, .zero c, h⟩
  | succ n ih =>
      obtain ⟨d, hd, hmore⟩ := htrial _ _ _ h
      obtain ⟨f, hf, hk⟩ := ih hmore
      exact ⟨f, .succ hd hf, hk⟩

theorem exists_of_upTo
    (htrial : ∀ c k e, trial c k = some e → ∃ d, R c d ∧ k d = some e)
    {seldom : Bool} {fuel : List Char} {left : Option Nat} {c e : Cursor}
    (h : upTo trial seldom fuel left c k = some e) :
    ∃ d, Further R left c d ∧ k d = some e := by
  induction fuel generalizing left c with
  | nil => exact ⟨c, .stop left c, h⟩
  | cons x fuel ih =>
      rcases upTo_cons_eq_some h with h | ⟨hleft, h⟩
      · exact ⟨c, .stop left c, h⟩
      · obtain ⟨d, hd, hmore⟩ := htrial _ _ _ h
        split at hmore
        · next hposition => exact ⟨d, .still hleft hd hposition, hmore⟩
        · next hposition =>
            obtain ⟨f, hf, hk⟩ := ih hmore
            exact ⟨f, .more hleft hd hposition hf, hk⟩

theorem eq_none_of_times
    (htrial : ∀ c d k, R c d → trial c k = none → k d = none)
    {n : Nat} {c d : Cursor} (hway : Repeated R n c d) (h : times trial n c k = none) :
    k d = none := by
  induction hway with
  | zero c => exact h
  | succ first _ ih => exact ih (htrial _ _ _ first h)

/-- There is fuel for every time that finds a character. -/
theorem eq_none_of_upTo
    (htrial : ∀ c d k, R c d → trial c k = none → k d = none)
    (hprecedes : ∀ c d, R c d → c.Precedes d)
    {seldom : Bool} {fuel : List Char} {left : Option Nat} {c d : Cursor}
    (hway : Further R left c d) (hfuel : c.rest.length < fuel.length)
    (h : upTo trial seldom fuel left c k = none) : k d = none := by
  induction hway generalizing fuel with
  | stop left c =>
      cases fuel with
      | nil => cases hfuel
      | cons x fuel => exact (upTo_cons_eq_none h).1
  | still hleft last hsame =>
      cases fuel with
      | nil => cases hfuel
      | cons x fuel =>
          have hlast := htrial _ _ _ last ((upTo_cons_eq_none h).2 hleft)
          rwa [if_pos hsame] at hlast
  | more hleft first hmoved _ ih =>
      cases fuel with
      | nil => cases hfuel
      | cons x fuel =>
          have hfirst := htrial _ _ _ first ((upTo_cons_eq_none h).2 hleft)
          rw [if_neg hmoved] at hfirst
          -- a character is used up, and so is one of the fuel
          have := (hprecedes _ _ first).length_lt hmoved
          rw [List.length_cons] at hfuel
          exact ih (by omega) hfirst

end Trials

/-- What is found of a pattern is found in one of its ways. -/
theorem exists_way_of_attempt {p : Pattern} {c e : Cursor} {k : Demand}
    (h : attempt p c k = some e) : ∃ d, Way p c d ∧ k d = some e := by
  induction p generalizing c e k with
  | empty => exact ⟨c, rfl, h⟩
  | any => exact Option.bind_eq_some_iff.mp h
  | set items negated => exact Option.bind_eq_some_iff.mp h
  | anchor a =>
      simp only [attempt] at h
      split at h
      · next hmeets => exact ⟨c, ⟨hmeets, rfl⟩, h⟩
      · cases h
  | seq p q ihp ihq =>
      obtain ⟨d, hd, h⟩ := ihp h
      obtain ⟨f, hf, hk⟩ := ihq h
      exact ⟨f, ⟨d, hd, hf⟩, hk⟩
  | alt p q ihp ihq =>
      rcases Option.or_eq_some_iff.mp h with h | ⟨-, h⟩
      · obtain ⟨d, hd, hk⟩ := ihp h
        exact ⟨d, .inl hd, hk⟩
      · obtain ⟨d, hd, hk⟩ := ihq h
        exact ⟨d, .inr hd, hk⟩
  | «repeat» p least most seldom ih =>
      have hone : ∀ c k e, attempt p c k = some e → ∃ d, Way p c d ∧ k d = some e :=
        fun _ _ _ => ih
      obtain ⟨d, hd, h⟩ := exists_of_times hone h
      obtain ⟨f, hf, hk⟩ := exists_of_upTo hone h
      exact ⟨f, ⟨d, hd, hf⟩, hk⟩
  | committed p _ => exact Option.bind_eq_some_iff.mp h
  | group number p ih =>
      obtain ⟨d, hd, hk⟩ := ih h
      exact ⟨_, ⟨d, hd, rfl⟩, hk⟩
  | same number casing => exact Option.bind_eq_some_iff.mp h
  | look back negated p _ => exact Option.bind_eq_some_iff.mp h
  | ifGroup number p q ihp ihq =>
      simp only [attempt] at h
      split at h
      · next hkept =>
          obtain ⟨d, hd, hk⟩ := ihp h
          exact ⟨d, by rwa [Way, if_pos hkept], hk⟩
      · next hkept =>
          obtain ⟨d, hd, hk⟩ := ihq h
          exact ⟨d, by rwa [Way, if_neg hkept], hk⟩

/-- A way leads from a place to one that does not stand before it. -/
theorem Way.precedes {p : Pattern} {c d : Cursor} (h : Way p c d) : c.Precedes d := by
  induction p generalizing c d with
  | empty =>
      obtain rfl := h
      exact .refl d
  | any => exact Cursor.precedes_of_next? h
  | set items negated => exact Cursor.precedes_of_next? h
  | anchor a =>
      obtain ⟨-, rfl⟩ := h
      exact .refl d
  | seq p q ihp ihq =>
      obtain ⟨e, hp, hq⟩ := h
      exact (ihp hp).trans (ihq hq)
  | alt p q ihp ihq => exact h.elim ihp ihq
  | «repeat» p least most seldom ih =>
      obtain ⟨e, hleast, hmore⟩ := h
      exact (hleast.precedes fun _ _ => ih).trans (hmore.precedes fun _ _ => ih)
  | committed p ih =>
      -- what is found first is found in one of the ways of the pattern itself
      obtain ⟨e, he, hsome⟩ := exists_way_of_attempt h
      obtain rfl := Option.some.inj hsome
      exact ih he
  | group number p ih =>
      obtain ⟨e, he, rfl⟩ := h
      exact ⟨(ih he).position, (ih he).length⟩
  | same number casing =>
      obtain ⟨text, -, htext⟩ := Option.bind_eq_some_iff.mp h
      exact Cursor.precedes_of_follow? htext
  | look back negated p _ => exact Cursor.precedes_of_looked h
  | ifGroup number p q ihp ihq =>
      rw [Way] at h
      split at h
      · exact ihp h
      · exact ihq h

theorem eq_none_of_way {p : Pattern} {c d : Cursor} {k : Demand} (hway : Way p c d)
    (h : attempt p c k = none) : k d = none := by
  induction p generalizing c d k with
  | empty =>
      obtain rfl := hway
      exact h
  | any => exact Option.bind_eq_none_iff.mp h d hway
  | set items negated => exact Option.bind_eq_none_iff.mp h d hway
  | anchor a =>
      obtain ⟨hmeets, rfl⟩ := hway
      simpa [attempt, hmeets] using h
  | seq p q ihp ihq =>
      obtain ⟨e, hp, hq⟩ := hway
      exact ihq hq (ihp hp h)
  | alt p q ihp ihq =>
      obtain ⟨hp, hq⟩ := Option.or_eq_none_iff.mp h
      exact hway.elim (ihp · hp) (ihq · hq)
  | «repeat» p least most seldom ih =>
      obtain ⟨e, hleast, hmore⟩ := hway
      have hone : ∀ c d k, Way p c d → attempt p c k = none → k d = none := fun _ _ _ => ih
      have hrest := eq_none_of_times hone hleast h
      exact eq_none_of_upTo hone (fun _ _ => Way.precedes) hmore (by simp) hrest
  | committed p _ => exact Option.bind_eq_none_iff.mp h d hway
  | group number p ih =>
      obtain ⟨e, he, rfl⟩ := hway
      exact ih (k := fun d => k (d.keep number (c.textTo d))) he h
  | same number casing => exact Option.bind_eq_none_iff.mp h d hway
  | look back negated p _ => exact Option.bind_eq_none_iff.mp h d hway
  | ifGroup number p q ihp ihq =>
      rw [Way] at hway
      rw [attempt] at h
      split at hway
      · next hkept => exact ihp hway (by rwa [if_pos hkept] at h)
      · next hkept => exact ihq hway (by rwa [if_neg hkept] at h)

/-- A pattern is not found before a demand just when the demand fails after every way. -/
theorem attempt_eq_none_iff {p : Pattern} {c : Cursor} {k : Demand} :
    attempt p c k = none ↔ ∀ d, Way p c d → k d = none := by
  constructor
  · intro h d hway
    exact eq_none_of_way hway h
  · intro h
    cases hattempt : attempt p c k with
    | none => rfl
    | some e =>
        obtain ⟨d, hway, hk⟩ := exists_way_of_attempt hattempt
        rw [h d hway] at hk
        cases hk

/-! ## Searching -/

theorem isSome_firstEnd_iff {p : Pattern} {c : Cursor} :
    (firstEnd p c).isSome = true ↔ ∃ d, Way p c d := by
  rw [Option.isSome_iff_ne_none, ne_eq, firstEnd, attempt_eq_none_iff]
  simp

theorem isFoundFrom_iff {p : Pattern} {position : Nat} {past cs : List Char} :
    isFoundFrom p position past cs = true ↔
      ∃ s t d, cs = s ++ t ∧ Way p ⟨position + s.length, s.reverse ++ past, t, []⟩ d := by
  induction cs generalizing position past with
  | nil =>
      rw [isFoundFrom, isSome_firstEnd_iff]
      constructor
      · rintro ⟨d, hway⟩
        exact ⟨[], [], d, rfl, hway⟩
      · rintro ⟨s, t, d, hcs, hway⟩
        obtain ⟨rfl, rfl⟩ := List.append_eq_nil_iff.mp hcs.symm
        exact ⟨d, hway⟩
  | cons x cs ih =>
      rw [isFoundFrom, Bool.or_eq_true, isSome_firstEnd_iff, ih]
      constructor
      · rintro (⟨d, hway⟩ | ⟨s, t, d, rfl, hway⟩)
        · exact ⟨[], x :: cs, d, rfl, hway⟩
        · refine ⟨x :: s, t, d, rfl, ?_⟩
          simpa [Nat.add_assoc, Nat.add_comm 1] using hway
      · rintro ⟨s, t, d, hcs, hway⟩
        cases s with
        | nil =>
            obtain rfl : x :: cs = t := hcs
            exact .inl ⟨d, hway⟩
        | cons y s =>
            obtain ⟨rfl, rfl⟩ := List.cons.inj hcs
            refine .inr ⟨s, t, d, rfl, ?_⟩
            simpa [Nat.add_assoc, Nat.add_comm 1] using hway

/-- A pattern is found in a text just when there is a way from one of its places. -/
theorem isFound_iff {p : Pattern} {text : String} :
    p.isFound text = true ↔
      ∃ s t d, text.toList = s ++ t ∧ Way p ⟨s.length, s.reverse, t, []⟩ d := by
  rw [isFound, isFoundFrom_iff]
  simp

end RecordMapper.Text.Pattern
