import RecordMapper.Text.Pattern.Basic

/-! # Trying patterns

A pattern is tried at a place of a text. The ways to find it come in order: the first alternative
before the second one, another repetition before none, or none before another. What is wanted is the
first way after which everything else is found, too. -/

namespace RecordMapper.Text.Pattern

/-! ## Places -/

/-- A place in a text: how many characters stand before it, these characters, the nearest first, the
characters after it, and what the groups have been found along on the way there, the last first. -/
structure Cursor where
  position : Nat
  past : List Char
  rest : List Char
  groups : List (Nat × List Char)
deriving DecidableEq, Repr

namespace Cursor

/-- The character before the place, if it is not the first. -/
def before (c : Cursor) : Option Char := c.past.head?

/-- Whether a place lies between a word character and something else. -/
def atWordEdge (c : Cursor) (isWord : Char → Bool) : Bool :=
  c.before.any isWord != c.rest.head?.any isWord

/-- Whether a character stands before a place or after it. -/
def hasText (c : Cursor) : Bool := !(c.past.isEmpty && c.rest.isEmpty)

/-- Whether a word character is one of ASCII, or any. -/
def wordTest (ascii : Bool) : Char → Bool :=
  if ascii then NamedClass.word.holdsAscii else NamedClass.word.holds

/-- Whether a place meets a condition. The text without characters has neither an edge of a word nor
a place that is none. -/
def meets (c : Cursor) : Anchor → Bool
  | .start => c.past.isEmpty
  | .lineStart => c.past.isEmpty || c.before == some '\n'
  | .lineEnd => c.rest == [] || c.rest == ['\n']
  | .everyLineEnd => c.rest.isEmpty || c.rest.head? == some '\n'
  | .textEnd => c.rest == []
  | .wordEdge ascii => c.atWordEdge (wordTest ascii)
  | .noWordEdge ascii => !c.atWordEdge (wordTest ascii) && c.hasText

/-- The place after the next character, if that passes a test. -/
def next? (c : Cursor) (test : Char → Bool) : Option Cursor :=
  match c.rest with
  | [] => none
  | d :: ds => if test d then some ⟨c.position + 1, d :: c.past, ds, c.groups⟩ else none

/-- The place a number of characters before, if there are so many. -/
def back? (c : Cursor) (n : Nat) : Option Cursor :=
  if n ≤ c.past.length then
    some ⟨c.position - n, c.past.drop n, (c.past.take n).reverse ++ c.rest, c.groups⟩
  else none

/-- The characters from a place to a later one. -/
def textTo (c d : Cursor) : List Char := c.rest.take (d.position - c.position)

/-- The place with a text kept for a group. -/
def keep (c : Cursor) (number : Nat) (text : List Char) : Cursor :=
  { c with groups := (number, text) :: c.groups }

/-- What a group has been found along, if it has. -/
def kept? (c : Cursor) (number : Nat) : Option (List Char) := c.groups.lookup number

/-- The place after a text, if that comes next. -/
def follow? (casing : Casing) : List Char → Cursor → Option Cursor
  | [], c => some c
  | t :: ts, c => (c.next? fun d => casing.key d == casing.key t).bind (follow? casing ts)

/-- The place from which something was looked for, unless that ended the wrong way. It knows what
the groups have been found along in what was seen. -/
def looked (c : Cursor) (negated : Bool) (seen : Option Cursor) : Option Cursor :=
  match negated, seen with
  | false, some d => some { c with groups := d.groups }
  | true, none => some c
  | _, _ => none

end Cursor

/-! ## Ways -/

/-- What is still to be found after a place, and where that ends. -/
abbrev Demand := Cursor → Option Cursor

/-- Something that can be tried at a place before a demand. -/
abbrev Trial := Cursor → Demand → Option Cursor

/-- Tries a number of times in a row. -/
def times (trial : Trial) : Nat → Trial
  | 0, c, k => k c
  | n + 1, c, k => trial c fun d => times trial n d k

/-- Tries up to a number of times in a row. A time that finds nothing at all is the last one. There
is a character of `fuel` for each time, which is enough if there are more of them than after the
place. -/
def upTo (trial : Trial) (seldom : Bool) : List Char → Option Nat → Trial
  | [], _, c, k => k c
  | _ :: fuel, left, c, k =>
    let again : Unit → Option Cursor := fun _ =>
      if left = some 0 then none
      else trial c fun d =>
        if d.position = c.position then k d
        else upTo trial seldom fuel (left.map (· - 1)) d k
    if seldom then (k c).or (again ()) else (again ()).or (k c)

/-- Tries a pattern at a place before a demand. -/
def attempt : Pattern → Trial
  | .empty, c, k => k c
  | .any, c, k => (c.next? (· != '\n')).bind k
  | .set items negated, c, k => (c.next? fun d => (items.any (·.holds d)) != negated).bind k
  | .anchor a, c, k => if c.meets a then k c else none
  | .seq p q, c, k => attempt p c fun d => attempt q d k
  | .alt p q, c, k => (attempt p c k).or (attempt q c k)
  | .repeat p least most seldom, c, k =>
    times (attempt p) least c fun d =>
      upTo (attempt p) seldom ('\n' :: d.rest) (most.map (· - least)) d k
  | .committed p, c, k => (attempt p c some).bind k
  | .group number p, c, k => attempt p c fun d => k (d.keep number (c.textTo d))
  | .same number casing, c, k => ((c.kept? number).bind fun t => c.follow? casing t).bind k
  | .look back negated p, c, k =>
    (c.looked negated ((c.back? back).bind fun b => attempt p b some)).bind k
  | .ifGroup number p q, c, k => if (c.kept? number).isSome then attempt p c k else attempt q c k

/-- The place after what is first found of a pattern at a place. -/
def firstEnd (p : Pattern) (c : Cursor) : Option Cursor := attempt p c some

end RecordMapper.Text.Pattern
