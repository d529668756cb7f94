/-! # Cutting texts

Texts between separators and after marks. -/

namespace RecordMapper.Text

/-- The parts of a text between separators. -/
def splitAt (separator : Char) : List Char → List (List Char)
  | [] => [[]]
  | c :: cs =>
    if c = separator then [] :: splitAt separator cs
    else
      match splitAt separator cs with
      | [] => [[c]]
      | part :: parts => (c :: part) :: parts

/-- What stands before the first separator; everything when there is none. -/
def before (separator : Char) (cs : List Char) : List Char := cs.takeWhile (· != separator)

/-- What stands after the first separator; everything when there is none. -/
def after (separator : Char) (cs : List Char) : List Char :=
  match cs.dropWhile (· != separator) with
  | [] => cs
  | _ :: rest => rest

/-- What stands after a text at the beginning. -/
def afterStart? : List Char → List Char → Option (List Char)
  | [], cs => some cs
  | _ :: _, [] => none
  | m :: mark, c :: cs => if m = c then afterStart? mark cs else none

/-- Whether a text begins with another one. -/
def startsWith (start cs : List Char) : Bool := (afterStart? start cs).isSome

/-- Whether a mark stands anywhere in a text. -/
def holds (mark : List Char) : List Char → Bool
  | [] => mark.isEmpty
  | c :: cs => startsWith mark (c :: cs) || holds mark cs

/-- The text up to the end, which may be a line feed, if it is one line and not empty. -/
def wholeLine? (cs : List Char) : Option (List Char) :=
  let line := before '\n' cs
  let rest := cs.dropWhile (· != '\n')
  if line.isEmpty ∨ rest.length > 1 then none else some line

/-- The line after the first mark that has one, up to the end of the text. -/
def lineAfter? (mark : List Char) : List Char → Option (List Char)
  | [] => none
  | c :: cs =>
    match (afterStart? mark (c :: cs)).bind wholeLine? with
    | some line => some line
    | none => lineAfter? mark cs

end RecordMapper.Text
