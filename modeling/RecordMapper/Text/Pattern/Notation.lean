import RecordMapper.Number.Reader
import RecordMapper.Text.Escape
import RecordMapper.Text.Pattern.Basic

/-! # The notation of patterns

Patterns are written down as texts. Characters stand for themselves, but for the signs that build
larger patterns, and for those after a backslash. Flags change what the signs mean. -/

namespace RecordMapper.Text

/-- Why a text is no pattern: it is not well formed, the number of a repetition or a character is
too large, that of a repetition has too many digits, or flags are opposed. -/
inductive PatternError where
  | malformed
  | tooLarge
  | longNumeral (digits : Nat)
  | opposedFlags
deriving DecidableEq, Repr

/-- The text of the error, where it is one about values. -/
def PatternError.message : PatternError → String
  | .malformed => ""
  | .tooLarge => ""
  | .longNumeral digits => Number.NumeralError.tooLongMessage digits
  | .opposedFlags => "ASCII and UNICODE flags are incompatible"

namespace Pattern

/-- The outcome of reading. -/
abbrev Reading := Except PatternError

/-- The characters that are left when those up to a sign are dropped; an escaped one is no sign. -/
def skipPast (sign : Char) (mayEnd : Bool) : List Char → Reading (List Char)
  | [] => if mayEnd then .ok [] else .error .malformed
  | ['\\'] => .error .malformed
  | '\\' :: _ :: cs => skipPast sign mayEnd cs
  | c :: cs => if c = sign then .ok cs else skipPast sign mayEnd cs

/-! ## Flags -/

/-- What can be asked for with a letter: classes and letters of ASCII or of Unicode, letters in
either case, anchors at every line, a dot for line breaks too, blanks and comments between the
signs, and no repetitions. -/
inductive Flag where
  | ascii
  | unicode
  | caseless
  | lines
  | dotAll
  | layout
  | template
deriving DecidableEq, Repr

namespace Flag

/-- The flag of a letter. -/
def ofLetter? (c : Char) : Option Flag :=
  if c = 'a' then some .ascii
  else if c = 'u' then some .unicode
  else if c = 'i' then some .caseless
  else if c = 'm' then some .lines
  else if c = 's' then some .dotAll
  else if c = 'x' then some .layout
  else if c = 't' then some .template
  else none

/-- Whether a flag says which characters there are. -/
def isKind : Flag → Bool
  | .ascii => true
  | .unicode => true
  | _ => false

/-- The flags of the letters in front, the sign after them and what follows. -/
def read : List Char → Reading (List Flag × Char × List Char)
  | [] => .error .malformed
  | c :: cs =>
    match ofLetter? c with
    | some flag => (read cs).map fun r => (flag :: r.1, r.2)
    | none => .ok ([], c, cs)

end Flag

/-- A change of flags, for a whole pattern or for a group. -/
inductive FlagChange where
  | whole (on : List Flag)
  | group (on off : List Flag)

namespace FlagChange

/-- The change that begins with a flag or a minus sign. A group gets one kind of characters at most,
keeps the one it has, and what is for whole patterns is not for groups. -/
def read (cs : List Char) : Reading (FlagChange × List Char) := do
  let (on, sign, rest) ← Flag.read cs
  if on.contains .ascii ∧ on.contains .unicode then throw .malformed
  if sign = ')' ∧ on ≠ [] then return (.whole on, rest)
  if on.contains .template then throw .malformed
  if sign = ':' then return (.group on [], rest)
  if sign ≠ '-' then throw .malformed
  let (off, sign, rest) ← Flag.read rest
  if sign ≠ ':' ∨ off = [] then throw .malformed
  if off.any fun flag => flag.isKind || flag == .template || on.contains flag then
    throw .malformed
  return (.group on off, rest)

end FlagChange

/-- The flags within a group that turns some on and some off. -/
def changedFlags (on off flags : List Flag) : List Flag :=
  let kept := if on.any Flag.isKind then flags.filter (!·.isKind) else flags
  (on ++ kept).filter (!off.contains ·)

/-- A part of a set under flags. -/
def itemUnder (flags : List Flag) : CharItem → CharItem
  | .range a b =>
    if flags.contains .caseless then .eitherCase (flags.contains .ascii) a b else .range a b
  | .named cls _ negated => .named cls (flags.contains .ascii) negated
  | item => item

/-- The pattern of one code point. -/
def single (flags : List Flag) (code : Nat) : Pattern :=
  .set [itemUnder flags (.range code code)] false

/-- When a text is the same as one that a group was found along. -/
def casingUnder (flags : List Flag) : Casing :=
  if !flags.contains .caseless then .exact
  else if flags.contains .ascii then .asciiLetters
  else .letters

/-! ## Escapes -/

/-- The named class of a letter after a backslash. -/
def namedClass? (c : Char) : Option CharItem :=
  if c = 'd' then some (.named .digit false false)
  else if c = 'D' then some (.named .digit false true)
  else if c = 'w' then some (.named .word false false)
  else if c = 'W' then some (.named .word false true)
  else if c = 's' then some (.named .blank false false)
  else if c = 'S' then some (.named .blank false true)
  else none

/-- The place of a letter after a backslash. -/
def anchor? (flags : List Flag) (c : Char) : Option Anchor :=
  if c = 'A' then some .start
  else if c = 'Z' then some .textEnd
  else if c = 'b' then some (.wordEdge (flags.contains .ascii))
  else if c = 'B' then some (.noWordEdge (flags.contains .ascii))
  else none

/-- The least number that is too large for a character to be looked up. -/
def tooLargeCode : Nat := 2147483648

/-- The code point of the escape that begins with `c`. Letters have to have a meaning, and octal
numbers go up to 255. -/
def escapedCode (c : Char) (cs : List Char) : Reading (Nat × List Char) :=
  match escapeMeaning c cs with
  | .code n extra => if c.isDigit ∧ 255 < n then .error .malformed else .ok (n, cs.drop extra)
  | .plain => if c.isAlphanum then .error .malformed else .ok (c.toNat, cs)
  | .broken =>
    if c = 'U' ∧ (hexValue? 8 0 cs).any (tooLargeCode ≤ ·) then .error .tooLarge
    else .error .malformed

/-- The number of a group that begins with the digit `c`; it has two digits at most. -/
def groupNumber (c : Char) (cs : List Char) : Nat × List Char :=
  match cs with
  | d :: rest => if d.isDigit then (digitsValue 0 [c, d], rest) else (digitsValue 0 [c], cs)
  | [] => (digitsValue 0 [c], [])

/-! ## Sets of characters -/

/-- One end of a range, or a named class, within brackets; the first character is `c`. -/
def setItem (c : Char) (cs : List Char) : Reading (CharItem × List Char) :=
  if c = '\\' then
    match cs with
    | [] => .error .malformed
    | e :: rest =>
      match namedClass? e with
      | some item => .ok (item, rest)
      | none => (escapedCode e rest).map fun r => (.range r.1 r.1, r.2)
  else .ok (.range c.toNat c.toNat, cs)

/-- The range between two items, both of which have to be single characters in order. -/
def rangeOf : CharItem → CharItem → Reading CharItem
  | .range a b, .range c d =>
    if a = b ∧ c = d ∧ a ≤ c then .ok (.range a c) else .error .malformed
  | _, _ => .error .malformed

/-- The items within brackets up to the closing one. `first` says that none has been read; then a
closing bracket stands for itself. -/
def setItems (fuel : Nat) (first : Bool) (cs : List Char) : Reading (List CharItem × List Char) :=
  match fuel, cs with
  | 0, _ => .error .malformed
  | _, [] => .error .malformed
  | fuel + 1, c :: cs =>
    if c = ']' ∧ first = false then .ok ([], cs)
    else do
      let (item, rest) ← setItem c cs
      match rest with
      | '-' :: ']' :: rest => return ([item, .range 45 45], rest)
      | '-' :: d :: rest =>
        let (last, rest) ← setItem d rest
        let item ← rangeOf item last
        let (items, rest) ← setItems fuel false rest
        return (item :: items, rest)
      | rest =>
        let (items, rest) ← setItems fuel false rest
        return (item :: items, rest)

/-- A set after its opening bracket. -/
def readSet (flags : List Flag) (cs : List Char) : Reading (Pattern × List Char) := do
  let (negated, cs) :=
    match cs with
    | '^' :: rest => (true, rest)
    | rest => (false, rest)
  let (items, rest) ← setItems (cs.length + 1) true cs
  return (.set (items.map (itemUnder flags)) negated, rest)

/-! ## Repetitions -/

/-- How often something is repeated, at least and at most. -/
structure Bounds where
  least : Nat
  most : Option Nat

/-- Whether no text can be repeated so often. -/
def Bounds.isEmpty (b : Bounds) : Bool := b.most.any (· < b.least)

/-- The least number that is too large for a bound. -/
def tooManyTimes : Nat := 4294967295

/-- The bound of a numeral, if there is one. -/
def bound (digits : List Char) : Reading (Option Nat) :=
  if digits.isEmpty then .ok none
  else if digits.length > Number.longestNumeral then .error (.longNumeral digits.length)
  else
    let n := digitsValue 0 digits
    if n < tooManyTimes then .ok (some n) else .error .tooLarge

/-- Bounds after an opening brace: none when the brace stands for itself. That a backslash at the
end has nothing to escape shows before the bounds are looked at. -/
def braceBounds? (cs : List Char) : Reading (Option (Bounds × List Char)) :=
  if cs.head? = some '\x7d' then .ok none
  else
    let low := cs.takeWhile Char.isDigit
    let (high, rest) :=
      match cs.dropWhile Char.isDigit with
      | ',' :: rest => (rest.takeWhile Char.isDigit, rest.dropWhile Char.isDigit)
      | rest => (low, rest)
    match rest with
    | '\x7d' :: rest => do
      if rest = ['\\'] then throw .malformed
      let least ← bound low
      let most ← bound high
      return some (⟨least.getD 0, most⟩, rest)
    | _ => .ok none

/-- The bounds of a sign that repeats what stands before it, if the text begins with one. -/
def bounds? : List Char → Reading (Option (Bounds × List Char))
  | '*' :: rest => .ok (some (⟨0, none⟩, rest))
  | '+' :: rest => .ok (some (⟨1, none⟩, rest))
  | '?' :: rest => .ok (some (⟨0, some 1⟩, rest))
  | '\x7b' :: rest => braceBounds? rest
  | _ => .ok none

/-- A pattern that is repeated as often as possible; a sign after the bounds says otherwise. -/
def repeated (p : Pattern) (b : Bounds) : List Char → Pattern × List Char
  | '?' :: rest => (.repeat p b.least b.most true, rest)
  | '+' :: rest => (.committed (.repeat (.committed p) b.least b.most false), rest)
  | rest => (.repeat p b.least b.most false, rest)

/-! ## Widths -/

/-- The least and the greatest number of characters that a pattern takes. -/
structure Width where
  least : Nat
  most : Nat
deriving DecidableEq, Repr

/-- A number of characters that stands for any that is greater. -/
def widest : Nat := 18446744073709551616

namespace Width

/-- The width of one pattern after the other. -/
def plus (v w : Width) : Width :=
  ⟨min (v.least + w.least) widest, min (v.most + w.most) widest⟩

/-- The width of one pattern or the other. -/
def or (v w : Width) : Width := ⟨min v.least w.least, max v.most w.most⟩

/-- The width of a repetition. -/
def times (w : Width) (least : Nat) (most : Option Nat) : Width where
  least := min (w.least * least) widest
  most :=
    match most with
    | some n => min (w.most * n) widest
    | none => if w.most = 0 then 0 else widest

end Width

/-- The width of a pattern by those of its groups. -/
def width (groups : Nat → Width) : Pattern → Width
  | .empty => ⟨0, 0⟩
  | .any => ⟨1, 1⟩
  | .set .. => ⟨1, 1⟩
  | .anchor _ => ⟨0, 0⟩
  | .seq p q => (width groups p).plus (width groups q)
  | .alt p q => (width groups p).or (width groups q)
  | .repeat p least most _ => (width groups p).times least most
  | .committed p => width groups p
  | .group _ p => width groups p
  | .same number _ => groups number
  | .look .. => ⟨0, 0⟩
  | .ifGroup _ p q => (width groups p).or (width groups q)

end Pattern

end RecordMapper.Text
