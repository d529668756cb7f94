import RecordMapper.Text.Identifier
import RecordMapper.Text.Pattern.Notation

/-! # Reading patterns

The groups of a pattern are numbered in the order in which they open. What may be said of a group
later on depends on whether it is closed by then. -/

namespace RecordMapper.Text.Pattern

/-! ## What is known -/

/-- What is known while a pattern is read: the text that is left, the flags, the names and widths of
the groups so far, the number of groups before one looks behind, the greatest number that was asked
for, whether anything is repeated, and whether one looks behind for what has no width of its own.
Groups without a width are open. -/
structure Source where
  rest : List Char
  flags : List Flag
  names : List (List Char × Nat)
  widths : List (Option Width)
  behind : Option Nat
  asked : Nat
  repeats : Bool
  uneven : Bool

/-- What is known of a text before it is read. -/
def Source.ofText (flags : List Flag) (cs : List Char) : Source :=
  ⟨cs, flags, [], [], none, 0, false, false⟩

/-- The width of a group that is closed. -/
def Source.width? (s : Source) (number : Nat) : Option Width :=
  match number with
  | 0 => none
  | n + 1 => s.widths[n]?.join

/-- Something that is read from a text. -/
abbrev Reader := StateT Source (Except PatternError)

/-- Goes on with the text that is left. -/
def moveTo (rest : List Char) : Reader Unit := modify fun s => { s with rest }

/-- Reads something from the text alone. -/
def ofReading {α : Type} (read : List Char → Reading (α × List Char)) : Reader α := do
  let (a, rest) ← read (← get).rest
  moveTo rest
  return a

/-- Reads a sign if it comes next. -/
def accept (sign : Char) : Reader Bool := do
  match (← get).rest with
  | [] => return false
  | c :: rest =>
    if c = sign then
      moveTo rest
      return true
    else return false

/-- Reads a sign that has to come next. -/
def expect (sign : Char) : Reader Unit := do
  if !(← accept sign) then throw .malformed

/-- Reads up to the parenthesis that closes a group. -/
def enclosed (read : Reader Pattern) : Reader Pattern := do
  let p ← read
  expect ')'
  return p

/-- Reads with some flags turned on and some off. -/
def withFlags (on off : List Flag) (read : Reader Pattern) : Reader Pattern := do
  let flags := (← get).flags
  modify fun s => { s with flags := changedFlags on off flags }
  let p ← read
  modify fun s => { s with flags }
  return p

/-! ## Groups -/

/-- The number from which on there are too many groups. -/
def tooManyGroups : Nat := 2147483647

/-- Reads what stands before a sign, a character at least. -/
def readUntil (sign : Char) : Reader (List Char) := do
  let cs := (← get).rest
  let text := cs.takeWhile (· != sign)
  if text.isEmpty then throw .malformed
  moveTo (cs.drop text.length)
  expect sign
  return text

/-- Reads the name of a group. -/
def readName (sign : Char) : Reader (List Char) := do
  let name ← readUntil sign
  if isIdentifier name then return name else throw .malformed

/-- Opens a group. -/
def openGroup (name : Option (List Char)) : Reader Nat := do
  let s ← get
  let number := s.widths.length + 1
  modify fun s => { s with widths := s.widths ++ [none] }
  if let some name := name then
    if (s.names.lookup name).isSome then throw .malformed
    modify fun s => { s with names := (name, number) :: s.names }
  return number

/-- The width of a pattern that has been read. -/
def readWidth (p : Pattern) : Reader Width := do
  let s ← get
  return p.width fun number => (s.width? number).getD ⟨0, 0⟩

/-- Closes a group. -/
def closeGroup (number : Nat) (p : Pattern) : Reader Unit := do
  let w ← readWidth p
  modify fun s => { s with widths := s.widths.set (number - 1) (some w) }

/-- While one looks behind, only groups that were closed before can be referred to. -/
def checkBehind (number : Nat) : Reader Unit := do
  let s ← get
  if let some before := s.behind then
    if (s.width? number).isNone ∨ before < number then throw .malformed

/-- What a group that is closed has been found along. -/
def referTo (number : Nat) : Reader Pattern := do
  let s ← get
  if (s.width? number).isNone then throw .malformed
  checkBehind number
  return .same number (casingUnder s.flags)

/-- Reads the name of a group that is closed. -/
def readReference : Reader Pattern := do
  let name ← readName ')'
  match (← get).names.lookup name with
  | none => throw .malformed
  | some number => referTo number

/-- Reads the name of a group, or the number of one that may come later. -/
def readCondition : Reader Nat := do
  let name ← readUntil ')'
  let number ←
    if isIdentifier name then
      match (← get).names.lookup name with
      | none => throw .malformed
      | some number => pure number
    else
      match Number.readInteger name with
      | .ok (.ofNat (n + 1)) =>
        if tooManyGroups ≤ n + 1 then throw .malformed
        modify fun s => { s with asked := max s.asked (n + 1) }
        pure (n + 1)
      | _ => throw .malformed
  checkBehind number
  return number

/-- Reads what is to be found behind. -/
def lookingBehind (read : Reader Pattern) : Reader Pattern := do
  let behind := (← get).behind
  modify fun s => { s with behind := some (behind.getD s.widths.length) }
  let p ← read
  modify fun s => { s with behind }
  return p

/-- The greatest number of characters that can be looked behind. -/
def farthest : Nat := 4294967295

/-- A pattern that is looked for so many characters behind as it takes. -/
def lookBehind (negated : Bool) (p : Pattern) : Reader Pattern := do
  let w ← readWidth p
  if w.least ≠ w.most ∨ farthest < w.least then modify fun s => { s with uneven := true }
  return .look w.least negated p

/-! ## Sequences -/

/-- A pattern that has been read, and whether it can be repeated. -/
structure Item where
  pattern : Pattern
  repeatable : Bool

/-- Items one after the other, the last one first. -/
def inOrder (items : List Item) : Pattern :=
  items.foldl (fun q item => .seq item.pattern q) .empty

/-- Repeats the last item. -/
def repeatLast (b : Bounds) : List Item → Reader (List Item)
  | ⟨p, true⟩ :: items => do
    if b.isEmpty then throw .malformed
    let p ← ofReading fun cs => .ok (repeated p b cs)
    modify fun s => { s with repeats := true }
    return ⟨p, false⟩ :: items
  | _ => throw .malformed

/-- Whether blanks and comments begin with the character. -/
def isLayout (c : Char) : Bool := c == ' ' || '\t' ≤ c && c ≤ '\r' || c == '#'

/-- Reads what an escape outside of brackets stands for. -/
def readEscape : Reader Item := do
  let s ← get
  match s.rest with
  | [] => throw .malformed
  | c :: rest =>
    match namedClass? c, anchor? s.flags c with
    | some item, _ =>
      moveTo rest
      return ⟨.set [itemUnder s.flags item] false, true⟩
    | none, some a =>
      moveTo rest
      return ⟨.anchor a, false⟩
    | none, none =>
      if c.isDigit ∧ c ≠ '0' ∧ (octalDigits (c :: rest)).length ≠ 3 then
        let (number, rest) := groupNumber c rest
        moveTo rest
        return ⟨← referTo number, true⟩
      else
        let (code, rest) ← escapedCode c rest
        moveTo rest
        return ⟨single s.flags code, true⟩

/-- Reads what begins with a character that neither opens a group nor repeats anything. -/
def readItem (c : Char) : Reader Item := do
  let flags := (← get).flags
  if c = '\\' then readEscape
  else if c = '[' then return ⟨← ofReading (readSet flags), true⟩
  else if c = '.' then return ⟨if flags.contains .dotAll then .set [] true else .any, true⟩
  else if c = '^' then
    return ⟨.anchor (if flags.contains .lines then .lineStart else .start), false⟩
  else if c = '$' then
    return ⟨.anchor (if flags.contains .lines then .everyLineEnd else .lineEnd), false⟩
  else return ⟨single flags c.toNat, true⟩

mutual

/-- Reads alternatives up to a closing parenthesis or the end. -/
def readAlternatives (fuel : Nat) (first : Bool) : Reader Pattern :=
  match fuel with
  | 0 => throw .malformed
  | fuel + 1 => do
    let p ← readSequence fuel first []
    if ← accept '|' then return .alt p (← readAlternatives fuel false)
    else return p

/-- Reads one alternative after the items that have been read, the last of them first. Flags for the
whole pattern come first. -/
def readSequence (fuel : Nat) (first : Bool) (items : List Item) : Reader Pattern :=
  match fuel with
  | 0 => throw .malformed
  | fuel + 1 => do
    let s ← get
    match s.rest with
    | [] => return inOrder items
    | c :: rest =>
      if c = '|' ∨ c = ')' then return inOrder items
      else if s.flags.contains .layout && isLayout c then
        moveTo (← if c = '#' then skipPast '\n' true rest else pure rest)
        readSequence fuel first items
      else if let some (b, rest) ← bounds? s.rest then
        moveTo rest
        readSequence fuel first (← repeatLast b items)
      else
        moveTo rest
        if c = '(' then
          let item ← readGroup fuel (first && items.isEmpty)
          readSequence fuel first (item.toList ++ items)
        else
          readSequence fuel first ((← readItem c) :: items)

/-- Reads a group after its opening parenthesis. Comments and flags for the whole pattern are
nothing to be found. -/
def readGroup (fuel : Nat) (first : Bool) : Reader (Option Item) :=
  match fuel with
  | 0 => throw .malformed
  | fuel + 1 => do
    let cs := (← get).rest
    match cs with
    | '?' :: '#' :: rest =>
      moveTo (← skipPast ')' false rest)
      return none
    | '?' :: ':' :: rest =>
      moveTo rest
      return some ⟨← enclosed (readAlternatives fuel false), true⟩
    | '?' :: '>' :: rest =>
      moveTo rest
      return some ⟨.committed (← enclosed (readAlternatives fuel false)), true⟩
    | '?' :: 'P' :: '<' :: rest =>
      moveTo rest
      let name ← readName '>'
      return some (← readCapture fuel (some name))
    | '?' :: 'P' :: '=' :: rest =>
      moveTo rest
      return some ⟨← readReference, true⟩
    | '?' :: '=' :: rest =>
      moveTo rest
      return some ⟨.look 0 false (← enclosed (readAlternatives fuel false)), true⟩
    | '?' :: '!' :: rest =>
      moveTo rest
      return some ⟨.look 0 true (← enclosed (readAlternatives fuel false)), true⟩
    | '?' :: '<' :: '=' :: rest =>
      moveTo rest
      let p ← enclosed (lookingBehind (readAlternatives fuel false))
      return some ⟨← lookBehind false p, true⟩
    | '?' :: '<' :: '!' :: rest =>
      moveTo rest
      let p ← enclosed (lookingBehind (readAlternatives fuel false))
      return some ⟨← lookBehind true p, true⟩
    | '?' :: '(' :: rest =>
      moveTo rest
      let number ← readCondition
      let p ← readSequence fuel false []
      let q ← if ← accept '|' then readSequence fuel false [] else pure .empty
      expect ')'
      return some ⟨.ifGroup number p q, true⟩
    | '?' :: rest =>
      moveTo rest
      match ← ofReading FlagChange.read with
      | .whole on =>
        if !first then throw .malformed
        modify fun s => { s with flags := on ++ s.flags }
        return none
      | .group on off =>
        return some ⟨← withFlags on off (enclosed (readAlternatives fuel false)), true⟩
    | _ => return some (← readCapture fuel none)

/-- Reads a group that keeps what is found of it. -/
def readCapture (fuel : Nat) (name : Option (List Char)) : Reader Item :=
  match fuel with
  | 0 => throw .malformed
  | fuel + 1 => do
    let number ← openGroup name
    let p ← enclosed (readAlternatives fuel false)
    closeGroup number p
    return ⟨.group number p, true⟩

end

/-! ## Texts -/

/-- The pattern that a text describes under flags. What is wrong with it as a whole shows last. -/
def ofText (flags : List Flag) (text : String) : Reading Pattern := do
  let cs := text.toList
  let (p, s) ← (readAlternatives (5 * cs.length + 5) true).run (.ofText flags cs)
  if s.flags.contains .ascii ∧ s.flags.contains .unicode then throw .opposedFlags
  if s.rest ≠ [] ∨ s.widths.length < s.asked then throw .malformed
  if s.uneven ∨ s.repeats ∧ s.flags.contains .template then throw .malformed
  return p

end RecordMapper.Text.Pattern
