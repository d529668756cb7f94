import RecordMapper.Proofs.Text.Ways
import RecordMapper.Text.Pattern.Division

/-! # Where texts are divided

Dividing a text goes on after what it has found, and so it may miss a place that two patterns meet
at. It misses none when the places can be told by the characters around them, and what is found at
one of them ends before the next. Then the text is divided at all of these places. -/

namespace RecordMapper.Text.Pattern

theorem Cursor.Reads.textTo {c d : Cursor} {text : List Char} (h : c.Reads text d) :
    c.textTo d = text := by
  rw [Cursor.textTo, h.position, Nat.add_sub_cancel_left, h.rest, List.take_left]

/-! ## Two patterns in a row -/

theorem ways_of_junction? {p q : Pattern} {c : Cursor} {j : Junction}
    (h : junction? p q c = some j) : Way p c j.middle ∧ Way q j.middle j.last := by
  obtain ⟨middle, hmiddle, h⟩ := Option.bind_eq_some_iff.mp h
  obtain ⟨last, hlast, h⟩ := Option.bind_eq_some_iff.mp h
  obtain rfl := Option.some.inj h
  obtain ⟨d, hd, hdemand⟩ := exists_way_of_attempt hmiddle
  obtain ⟨-, -, rfl⟩ := Option.map_eq_some_iff.mp hdemand
  obtain ⟨e, he, hsome⟩ := exists_way_of_attempt hlast
  obtain rfl := Option.some.inj hsome
  exact ⟨hd, he⟩

theorem not_way_of_junction? {p q : Pattern} {c d e : Cursor} (h : junction? p q c = none)
    (hp : Way p c d) : ¬ Way q d e := by
  intro hq
  have hfirst : ∀ d, Way p c d → (firstEnd q d).map (fun _ => d) = none := by
    rw [← attempt_eq_none_iff]
    cases hattempt : attempt p c fun d => (firstEnd q d).map fun _ => d with
    | none => rfl
    | some middle =>
        -- the second pattern is found again from the place that has been settled on
        obtain ⟨d, -, hdemand⟩ := exists_way_of_attempt hattempt
        obtain ⟨last, hlast, rfl⟩ := Option.map_eq_some_iff.mp hdemand
        simp [junction?, hattempt, hlast] at h
  have hnone : attempt q d some = none := Option.map_eq_none_iff.mp (hfirst d hp)
  cases attempt_eq_none_iff.mp hnone e hq

/-! ## Marks at boundaries -/

/-- A test for places, by the character before and the characters after. -/
abbrev Boundary := Option Char → List Char → Bool

/-- The text with a mark at each boundary before one of its characters. -/
def marked (mark : Char) (boundary : Boundary) (before : Option Char) : List Char → List Char
  | [] => []
  | c :: cs =>
    if boundary before (c :: cs) then mark :: c :: marked mark boundary (some c) cs
    else c :: marked mark boundary (some c) cs

section

variable {mark : Char} {boundary : Boundary} {before : Option Char} {c : Char} {cs : List Char}

theorem marked_of_boundary (h : boundary before (c :: cs) = true) :
    marked mark boundary before (c :: cs) = mark :: c :: marked mark boundary (some c) cs := by
  rw [marked, if_pos h]

theorem marked_of_no_boundary (h : boundary before (c :: cs) = false) :
    marked mark boundary before (c :: cs) = c :: marked mark boundary (some c) cs := by
  rw [marked, h]
  rfl

end

/-- Two patterns are found in a row just where they meet at a boundary, and with no other boundary
up to the end of both. -/
structure Divides (p q : Pattern) (boundary : Boundary) : Prop where
  exists_ways {position : Nat} {past : List Char} {d : Char} {ds : List Char} :
    boundary (some d) ds = true → ∃ m e, Way p ⟨position, past, d :: ds, []⟩ m ∧ Way q m e
  length_lt {c m e : Cursor} : Way p c m → Way q m e → e.rest.length < c.rest.length
  marked_eq {mark : Char} {c m e : Cursor} : Way p c m → Way q m e →
    marked mark boundary c.before c.rest =
      c.textTo m ++ mark :: m.textTo e ++ marked mark boundary e.before e.rest
  no_boundary {c m e : Cursor} : Way p c m → Way q m e → boundary e.before e.rest = false

/-- The text is divided at every boundary. No boundary is ever passed by: there is none where the
search goes on, and a character before one is where both patterns are found. -/
theorem Divides.divideFrom_eq {p q : Pattern} {boundary : Boundary} (h : Divides p q boundary)
    {mark : Char} {position : Nat} {past cs : List Char}
    (hstart : boundary past.head? cs = false) :
    divideFrom mark p q position past cs = marked mark boundary past.head? cs := by
  fun_induction divideFrom mark p q position past cs with
  | case1 => rfl
  | case2 position past d ds here middle last hjunction _ ih =>
      obtain ⟨hp, hq⟩ := ways_of_junction? hjunction
      rw [ih (h.no_boundary hp hq)]
      exact (h.marked_eq hp hq).symm
  | case3 position past d ds here middle last hjunction hlong _ =>
      obtain ⟨hp, hq⟩ := ways_of_junction? hjunction
      have := h.length_lt hp hq
      simp only [here, List.length_cons] at this
      omega
  | case4 position past d ds here hjunction ih =>
      have hnext : boundary (some d) ds = false := by
        rw [Bool.eq_false_iff]
        intro hboundary
        obtain ⟨m, e, hp, hq⟩ := h.exists_ways hboundary
        exact not_way_of_junction? hjunction hp hq
      rw [ih hnext, marked_of_no_boundary hstart, List.head?_cons]

end RecordMapper.Text.Pattern
