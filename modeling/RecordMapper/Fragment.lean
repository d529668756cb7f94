/-! # Fragments

A fragment is a piece of a statement written by hand, in which a question mark is a slot for a
parameter. Question marks between quotes are text, and so is one after a backslash, which then
loses the backslash. A quote within quotes is written twice. -/

namespace RecordMapper

/-- What a token of a fragment is: a question mark after a backslash, a slot, a text between single
quotes, a name between double quotes, or anything else. -/
inductive FragmentTokenKind where
  | escapedSlot
  | slot
  | string
  | quotedName
  | text
deriving DecidableEq, Repr

namespace FragmentTokenKind

/-- The name of a token's class. -/
def className : FragmentTokenKind → String
  | .escapedSlot => "ESCAPED_PLACEHOLDER"
  | .slot => "PLACEHOLDER"
  | .string => "STRING"
  | .quotedName => "QUOTED_IDENTIFIER"
  | .text => "TEXT"

end FragmentTokenKind

/-- A token of a fragment, with its characters and the place of the first one, counted from 0. An
escaped question mark is without its backslash. -/
structure FragmentToken where
  kind : FragmentTokenKind
  chars : List Char
  position : Nat
deriving DecidableEq, Repr

/-- A quote that is never closed, and its place. -/
structure OpenQuote where
  quote : Char
  position : Nat
deriving DecidableEq, Repr

namespace OpenQuote

/-- The text of the error. -/
def message (e : OpenQuote) : String :=
  let found := String.singleton e.quote
  let place := e.position
  s!"Unterminated quote '{found}' at position {place}"

end OpenQuote

namespace Fragment

/-- Whether the character may stand in plain text. -/
def isPlain (c : Char) : Bool := c != '?' && c != '\'' && c != '"' && c != '\\'

/-- The characters up to a closing quote and with it. `start` is the place of the quote that is
open, `place` that of the next character. When a quote written twice is not followed by a closing
one, the second of the two is the quote that is open. -/
def quotedBody (quote : Char) (start place : Nat) : List Char → Except OpenQuote (List Char)
  | [] => .error ⟨quote, start⟩
  | [c] => if c = quote then .ok [c] else .error ⟨quote, start⟩
  | c :: d :: cs =>
    if c = quote then
      if d = quote then (quotedBody quote (place + 1) (place + 2) cs).map (c :: d :: ·)
      else .ok [c]
    else (quotedBody quote start (place + 1) (d :: cs)).map (c :: ·)

/-- The token at the front of the text `c :: cs` at a place, and how many characters after the first
one belong to it. -/
def front (place : Nat) (c : Char) (cs : List Char) : Except OpenQuote (FragmentToken × Nat) :=
  if c = '?' then .ok (⟨.slot, ['?'], place⟩, 0)
  else if c = '\'' ∨ c = '"' then do
    let body ← quotedBody c place (place + 1) cs
    let kind := if c = '\'' then FragmentTokenKind.string else .quotedName
    return (⟨kind, c :: body, place⟩, body.length)
  else if c = '\\' then
    if cs.head? = some '?' then .ok (⟨.escapedSlot, ['?'], place⟩, 1)
    else .ok (⟨.text, ['\\'], place⟩, 0)
  else
    let more := cs.takeWhile isPlain
    .ok (⟨.text, c :: more, place⟩, more.length)

/-- The tokens of a text from a place on. -/
def scan (place : Nat) : List Char → Except OpenQuote (List FragmentToken)
  | [] => .ok []
  | c :: cs =>
    match front place c cs with
    | .error e => .error e
    | .ok (t, extra) => (scan (place + extra + 1) (cs.drop extra)).map (t :: ·)
termination_by cs => cs.length
decreasing_by simp +arith

/-- The tokens of a fragment. -/
def tokens (text : String) : Except OpenQuote (List FragmentToken) := scan 0 text.toList

/-- A part of a fragment: text, or a slot. -/
inductive Part where
  | text (chars : List Char)
  | slot
deriving DecidableEq, Repr

/-- Puts text in front of parts, joined to the text that they begin with. -/
def consText (chars : List Char) : List Part → List Part
  | .text more :: parts => .text (chars ++ more) :: parts
  | parts => .text chars :: parts

/-- The parts that tokens make: neighbouring texts are joined. -/
def join : List FragmentToken → List Part
  | [] => []
  | t :: ts => if t.kind = .slot then .slot :: join ts else consText t.chars (join ts)

/-- The parts of a fragment. -/
def split (text : String) : Except OpenQuote (List Part) := (tokens text).map join

/-- The number of slots among parts. -/
def slotCount (parts : List Part) : Nat := parts.countP (· == .slot)

/-- The number of slots of a fragment. -/
def countSlots (text : String) : Except OpenQuote Nat := (split text).map slotCount

/-- A part of a fragment whose slots are told apart: text, or the slot of a number. -/
inductive NumberedPart where
  | text (chars : List Char)
  | slot (number : Nat)
deriving DecidableEq, Repr

/-- Numbers the slots among parts in order, from a number on. -/
def number (next : Nat) : List Part → List NumberedPart
  | [] => []
  | .text chars :: parts => .text chars :: number next parts
  | .slot :: parts => .slot next :: number (next + 1) parts

/-- The parts of a fragment, its slots numbered from 0. -/
def numberedParts (text : String) : Except OpenQuote (List NumberedPart) :=
  (split text).map (number 0)

end Fragment

end RecordMapper
