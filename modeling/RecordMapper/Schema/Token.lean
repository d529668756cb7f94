import RecordMapper.Number.Binary64
import RecordMapper.Text.Numeral

/-! # Tokens of schema texts -/

namespace RecordMapper

/-- A reserved word. -/
inductive Keyword where
  | schema
  | as
  | virtual
  | primaryKey
  | belongsTo
  | hasMany
  | hasOne
  | foreignKey
  | timestamps
  | true
  | false
  | null
deriving DecidableEq, Repr

namespace Keyword

/-- All reserved words. -/
def all : List Keyword :=
  [.schema, .as, .virtual, .primaryKey, .belongsTo, .hasMany, .hasOne, .foreignKey, .timestamps,
   .true, .false, .null]

/-- The word as it is written. -/
def word : Keyword → String
  | .schema => "schema"
  | .as => "as"
  | .virtual => "virtual"
  | .primaryKey => "primary_key"
  | .belongsTo => "belongs_to"
  | .hasMany => "has_many"
  | .hasOne => "has_one"
  | .foreignKey => "foreign_key"
  | .timestamps => "timestamps"
  | .true => "true"
  | .false => "false"
  | .null => "null"

/-- The name of the token's class. -/
def className : Keyword → String
  | .schema => "SCHEMA"
  | .as => "AS"
  | .virtual => "VIRTUAL"
  | .primaryKey => "PRIMARY_KEY"
  | .belongsTo => "BELONGS_TO"
  | .hasMany => "HAS_MANY"
  | .hasOne => "HAS_ONE"
  | .foreignKey => "FOREIGN_KEY"
  | .timestamps => "TIMESTAMPS"
  | .true => "TRUE"
  | .false => "FALSE"
  | .null => "NULL"

/-- The reserved word that is written so. -/
def ofWord? (s : String) : Option Keyword := all.find? fun k => k.word == s

end Keyword

/-- A sign that stands for itself. -/
inductive Mark where
  | leftBrace
  | rightBrace
  | colon
  | comma
  | equals
deriving DecidableEq, Repr

namespace Mark

/-- The character of a mark. -/
def char : Mark → Char
  | .leftBrace => '\x7b'
  | .rightBrace => '\x7d'
  | .colon => ':'
  | .comma => ','
  | .equals => '='

/-- The name of the token's class. -/
def className : Mark → String
  | .leftBrace => "LBRACE"
  | .rightBrace => "RBRACE"
  | .colon => "COLON"
  | .comma => "COMMA"
  | .equals => "EQUALS"

/-- The mark of a character. -/
def ofChar? (c : Char) : Option Mark :=
  [leftBrace, rightBrace, colon, comma, equals].find? fun m => m.char == c

end Mark

/-- What a token is, without its place. -/
inductive Lexeme where
  | identifier (name : String)
  | keyword (k : Keyword)
  | integer (i : Int)
  | float (x : Number.Binary64)
  | string (s : String)
  | mark (m : Mark)
deriving DecidableEq, Repr

namespace Lexeme

/-- The name of the token's class. -/
def className : Lexeme → String
  | .identifier _ => "IDENTIFIER"
  | .keyword k => k.className
  | .integer _ => "INTEGER"
  | .float _ => "FLOAT"
  | .string _ => "STRING"
  | .mark m => m.className

/-- The text of what the token stands for. -/
def text : Lexeme → String
  | .identifier name => name
  | .keyword k => k.word
  | .integer i => String.ofList (Text.intNumeral i)
  | .float x => x.text
  | .string s => s
  | .mark m => String.singleton m.char

end Lexeme

/-- A token and its place: the line, counted from 1 by the line breaks between tokens, and the
position of its first character, counted from 0. -/
structure Token where
  lexeme : Lexeme
  line : Nat
  position : Nat
deriving DecidableEq, Repr

end RecordMapper
