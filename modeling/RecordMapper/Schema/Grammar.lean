import RecordMapper.Schema.Declaration

/-! # The grammar of schema texts

A schema text is read token by token. At each place a few tokens are possible; the first one that
is not ends the reading with an error that names it, and so does a text that ends too early. -/

namespace RecordMapper

/-- Why a row of tokens is no schema text: a token cannot stand where it stands, or more of them
have to follow. -/
inductive GrammarError where
  | unexpected (t : Token)
  | ended
deriving DecidableEq, Repr

namespace GrammarError

/-- The text of the error. -/
def message : GrammarError → String
  | .unexpected t =>
    let found := t.lexeme.text
    let line := t.line
    s!"Syntax error at '{found}' (line {line})"
  | .ended => "Syntax error at end of input"

end GrammarError

namespace Grammar

/-- A place within the members of a schema, by what can come there: a member or the closing brace,
what follows a member, or the next part of a field or of a relationship, after what has been read of
it. -/
inductive Place where
  | member
  | afterMember
  | fieldColon (name : String) (line : Nat)
  | fieldKind (name : String) (line : Nat)
  | modifiers (d : FieldDeclaration)
  | default (d : FieldDeclaration)
  | relationshipName (kind : RelationshipKind)
  | relationshipColon (kind : RelationshipKind) (name : String)
  | related (kind : RelationshipKind) (name : String)
  | relationshipEnd (kind : RelationshipKind) (name related : String)
  | foreignKey (kind : RelationshipKind) (name related : String)

/-- A place in a schema text, with what has been read of the current schema: outside of all schemas,
before a part of its head, or within the braces after the given members. -/
inductive State where
  | outside
  | name
  | relationOrBody (name : String)
  | relation (name : String)
  | body (name relation : String)
  | inside (name : String) (relation : Option String) (members : List Member) (place : Place)

/-- The kind of relationship that a word begins. -/
def relationshipKind? : Keyword → Option RelationshipKind
  | .belongsTo => some .belongsTo
  | .hasMany => some .hasMany
  | .hasOne => some .hasOne
  | _ => none

/-- Where the members of a schema stand after a token: at a place, or at their end. -/
inductive Next where
  | at (members : List Member) (place : Place)
  | closed (members : List Member)

/-- After a member, which is the last of the given ones. -/
def afterMember (members : List Member) : Lexeme → Option Next
  | .mark .comma => some (.at members .member)
  | .mark .rightBrace => some (.closed members)
  | _ => none

/-- The beginning of a member, after the given ones. -/
def memberStart (members : List Member) (line : Nat) : Lexeme → Option Next
  | .mark .rightBrace => some (.closed members)
  | .keyword .timestamps => some (.at (members ++ [.timestamps]) .afterMember)
  | .identifier name => some (.at members (.fieldColon name line))
  | .keyword k => (relationshipKind? k).map fun kind => .at members (.relationshipName kind)
  | _ => none

/-- What a token does within the members of a schema; none where it cannot stand. -/
def step (members : List Member) (place : Place) (line : Nat) (lexeme : Lexeme) : Option Next :=
  match place with
  | .member => memberStart members line lexeme
  | .afterMember => afterMember members lexeme
  | .fieldColon name start =>
    match lexeme with
    | .mark .colon => some (.at members (.fieldKind name start))
    | _ => none
  | .fieldKind name start =>
    match lexeme with
    | .identifier kind => some (.at members (.modifiers ⟨name, start, kind, false, false, .null⟩))
    | _ => none
  | .modifiers d =>
    match lexeme with
    | .keyword .virtual => some (.at members (.modifiers { d with virtual := true }))
    | .keyword .primaryKey => some (.at members (.modifiers { d with primaryKey := true }))
    | .mark .equals => some (.at members (.default d))
    | other => afterMember (members ++ [.field d]) other
  | .default d =>
    (Literal.ofLexeme? lexeme).map fun v =>
      .at (members ++ [.field { d with default := v }]) .afterMember
  | .relationshipName kind =>
    match lexeme with
    | .identifier name => some (.at members (.relationshipColon kind name))
    | _ => none
  | .relationshipColon kind name =>
    match lexeme with
    | .mark .colon => some (.at members (.related kind name))
    | _ => none
  | .related kind name =>
    match lexeme with
    | .identifier related => some (.at members (.relationshipEnd kind name related))
    | _ => none
  | .relationshipEnd kind name related =>
    match lexeme with
    | .keyword .foreignKey => some (.at members (.foreignKey kind name related))
    | other => afterMember (members ++ [.relationship ⟨kind, name, related, none⟩]) other
  | .foreignKey kind name related =>
    match lexeme with
    | .identifier key =>
      some (.at (members ++ [.relationship ⟨kind, name, related, some key⟩]) .afterMember)
    | _ => none

/-- What a token does: the next state and the schema that it completes, if any; none where it cannot
stand. -/
def advance (s : State) (t : Token) : Option (State × Option Declaration) :=
  match s with
  | .outside =>
    match t.lexeme with
    | .keyword .schema => some (.name, none)
    | _ => none
  | .name =>
    match t.lexeme with
    | .identifier name => some (.relationOrBody name, none)
    | _ => none
  | .relationOrBody name =>
    match t.lexeme with
    | .keyword .as => some (.relation name, none)
    | .mark .leftBrace => some (.inside name none [] .member, none)
    | _ => none
  | .relation name =>
    match t.lexeme with
    | .identifier relation => some (.body name relation, none)
    | .string relation => some (.body name relation, none)
    | _ => none
  | .body name relation =>
    match t.lexeme with
    | .mark .leftBrace => some (.inside name (some relation) [] .member, none)
    | _ => none
  | .inside name relation members place =>
    (step members place t.line t.lexeme).map fun
      | .at members place => (.inside name relation members place, none)
      | .closed members => (.outside, some ⟨name, relation, members⟩)

/-- Reads the declarations of a row of tokens from a state on. -/
def read (s : State) : List Token → Except GrammarError (List Declaration)
  | [] =>
    match s with
    | .outside => .ok []
    | _ => .error .ended
  | t :: ts =>
    match advance s t with
    | none => .error (.unexpected t)
    | some (s, none) => read s ts
    | some (s, some d) => (read s ts).map (d :: ·)

end Grammar

/-- Reads the declarations of a row of tokens. -/
def Declaration.ofTokens (ts : List Token) : Except GrammarError (List Declaration) :=
  Grammar.read .outside ts

end RecordMapper
