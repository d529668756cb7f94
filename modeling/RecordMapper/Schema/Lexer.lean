import RecordMapper.Number.Reader
import RecordMapper.Schema.Token
import RecordMapper.Text.Escape

/-! # Reading tokens

A schema text is a row of tokens with blanks, line breaks and comments between them. Reading goes
on to the first character that begins no token; what was read before is kept. -/

namespace RecordMapper

/-- Why reading stops before the end of a text: a character begins no token, an integer has too many
digits, or an escape in a quoted text is broken. -/
inductive LexError where
  | illegal (c : Char) (line : Nat)
  | longNumeral (digits : Nat)
  | brokenEscape
deriving DecidableEq, Repr

namespace LexError

/-- The text of the error, where it is more than its kind. -/
def message : LexError → String
  | .illegal c line =>
    let found := String.singleton c
    s!"Illegal character '{found}' at line {line}"
  | .longNumeral n => Number.NumeralError.tooLongMessage n
  | .brokenEscape => ""

end LexError

namespace Lexer

/-- What stands at the front of a text, `extra` characters after the first one belonging to it. -/
inductive Piece where
  | blank (extra : Nat)
  | breaks (extra : Nat)
  | token (lexeme : Lexeme) (extra : Nat)
  | illegal
  | longNumeral (digits : Nat)
  | brokenEscape

/-- Whether the character may begin a name. -/
def beginsName (c : Char) : Bool := ('a' ≤ c && c ≤ 'z') || ('A' ≤ c && c ≤ 'Z') || c == '_'

/-- Whether the character may stand in a name. -/
def continuesName (c : Char) : Bool := beginsName c || ('0' ≤ c && c ≤ '9')

/-- A name or a reserved word. -/
def namePiece (c : Char) (cs : List Char) : Piece :=
  let more := cs.takeWhile continuesName
  let word := String.ofList (c :: more)
  match Keyword.ofWord? word with
  | some k => .token (.keyword k) more.length
  | none => .token (.identifier word) more.length

/-- A number: digits, and digits after a point if both are there. `sign` holds a minus sign or
nothing, and the text begins with a digit. -/
def numberPiece (sign : List Char) (cs : List Char) : Piece :=
  let whole := cs.takeWhile Text.isDigit
  let signed := sign.length + whole.length
  let integer :=
    match Number.readInteger (sign ++ whole) with
    | .ok i => Piece.token (.integer i) (signed - 1)
    | .error (.tooLong n) => .longNumeral n
    | .error .malformed => .illegal
  match cs.dropWhile Text.isDigit with
  | '.' :: rest =>
    match rest.takeWhile Text.isDigit with
    | [] => integer
    | fraction =>
      match Number.readFloat? (sign ++ whole ++ '.' :: fraction) with
      | some x => .token (.float x) (signed + fraction.length)
      | none => .illegal
  | _ => integer

/-- The characters up to the closing quote, and how many there are with it. -/
def quotedBody : List Char → Option (List Char × Nat)
  | [] => none
  | '"' :: _ => some ([], 1)
  | ['\\'] => none
  | '\\' :: c :: cs =>
    if c = '\n' then none
    else (quotedBody cs).map fun p => ('\\' :: c :: p.1, p.2 + 2)
  | c :: cs => (quotedBody cs).map fun p => (c :: p.1, p.2 + 1)

/-- A text between quotes. -/
def stringPiece (cs : List Char) : Piece :=
  match quotedBody cs with
  | none => .illegal
  | some (body, extra) =>
    match Text.unescape? body with
    | some s => .token (.string s) extra
    | none => .brokenEscape

/-- What stands at the front of the text `c :: cs`. -/
def piece (c : Char) (cs : List Char) : Piece :=
  if c = ' ' ∨ c = '\t' ∨ c = '\r' then .blank 0
  else if c = '\n' then .breaks (cs.takeWhile (· == '\n')).length
  else if c = '#' then .blank (cs.takeWhile (· != '\n')).length
  else if c = '"' then stringPiece cs
  else if beginsName c then namePiece c cs
  else if Text.isDigit c then numberPiece [] (c :: cs)
  else if c = '-' ∧ (cs.head?.map Text.isDigit).getD false then numberPiece ['-'] cs
  else
    match Mark.ofChar? c with
    | some m => .token (.mark m) 0
    | none => .illegal

/-- Reads tokens from a line and a place on. -/
def scan (line position : Nat) : List Char → List Token × Option LexError
  | [] => ([], none)
  | c :: cs =>
    match piece c cs with
    | .blank extra => scan line (position + extra + 1) (cs.drop extra)
    | .breaks extra => scan (line + extra + 1) (position + extra + 1) (cs.drop extra)
    | .token lexeme extra =>
      let (tokens, stop) := scan line (position + extra + 1) (cs.drop extra)
      (⟨lexeme, line, position⟩ :: tokens, stop)
    | .illegal => ([], some (.illegal c line))
    | .longNumeral n => ([], some (.longNumeral n))
    | .brokenEscape => ([], some .brokenEscape)
termination_by cs => cs.length
decreasing_by all_goals simp +arith

end Lexer

namespace Token

/-- The tokens of a text up to the first error, and that error. -/
def scan (text : String) : List Token × Option LexError := Lexer.scan 1 0 text.toList

/-- The tokens of a text, if all of it can be read. -/
def ofText (text : String) : Except LexError (List Token) :=
  match scan text with
  | (tokens, none) => .ok tokens
  | (_, some e) => .error e

end Token

end RecordMapper
