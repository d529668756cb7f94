import RecordMapper.Schema.Declaration

/-! # The productions of schema texts

Which rows of tokens are derived from each part of a schema text, and what they declare. There is
one rule for each production, and none of them invokes the reader. -/

namespace RecordMapper.Production

/-! ## Members -/

/-- A literal. -/
inductive IsLiteral : Lexeme → Literal → Prop where
  | integer (i : Int) : IsLiteral (.integer i) (.integer i)
  | float (x : Number.Binary64) : IsLiteral (.float x) (.float x)
  | string (s : String) : IsLiteral (.string s) (.string s)
  | true : IsLiteral (.keyword .true) (.bool true)
  | false : IsLiteral (.keyword .false) (.bool false)
  | null : IsLiteral (.keyword .null) .null

/-- An optional default; `null` where there is none. -/
inductive DefaultClause : List Token → Literal → Prop where
  | none : DefaultClause [] .null
  | literal {equals value : Token} {v : Literal} : equals.lexeme = .mark .equals →
      IsLiteral value.lexeme v → DefaultClause [equals, value] v

/-- The marks of a field in the order in which they stand. -/
inductive ModifierList : List Token → List Keyword → Prop where
  | nil : ModifierList [] []
  | virtual {ts : List Token} {t : Token} {ks : List Keyword} : ModifierList ts ks →
      t.lexeme = .keyword .virtual → ModifierList (ts ++ [t]) (ks ++ [.virtual])
  | primaryKey {ts : List Token} {t : Token} {ks : List Keyword} : ModifierList ts ks →
      t.lexeme = .keyword .primaryKey → ModifierList (ts ++ [t]) (ks ++ [.primaryKey])

/-- A field: name, kind, marks and default. -/
inductive FieldDef : List Token → FieldDeclaration → Prop where
  | field {name colon kind : Token} {n k : String} {ms ds : List Token} {ks : List Keyword}
      {v : Literal} : name.lexeme = .identifier n → colon.lexeme = .mark .colon →
      kind.lexeme = .identifier k → ModifierList ms ks → DefaultClause ds v →
      FieldDef (name :: colon :: kind :: (ms ++ ds))
        ⟨n, name.line, k, ks.contains .virtual, ks.contains .primaryKey, v⟩

/-- The word that a relationship begins with. -/
inductive KindWord : Lexeme → RelationshipKind → Prop where
  | belongsTo : KindWord (.keyword .belongsTo) .belongsTo
  | hasMany : KindWord (.keyword .hasMany) .hasMany
  | hasOne : KindWord (.keyword .hasOne) .hasOne

/-- An optional foreign key. -/
inductive ForeignKeyClause : List Token → Option String → Prop where
  | none : ForeignKeyClause [] none
  | key {word name : Token} {n : String} : word.lexeme = .keyword .foreignKey →
      name.lexeme = .identifier n → ForeignKeyClause [word, name] (some n)

/-- A relationship: kind, name, related schema and foreign key. -/
inductive RelationshipDef : List Token → RelationshipDeclaration → Prop where
  | relationship {word name colon related : Token} {kind : RelationshipKind} {n r : String}
      {ts : List Token} {key : Option String} : KindWord word.lexeme kind →
      name.lexeme = .identifier n → colon.lexeme = .mark .colon →
      related.lexeme = .identifier r → ForeignKeyClause ts key →
      RelationshipDef (word :: name :: colon :: related :: ts) ⟨kind, n, r, key⟩

/-- A member of a schema. -/
inductive MemberDef : List Token → Member → Prop where
  | field {ts : List Token} {d : FieldDeclaration} : FieldDef ts d → MemberDef ts (.field d)
  | relationship {ts : List Token} {d : RelationshipDeclaration} : RelationshipDef ts d →
      MemberDef ts (.relationship d)
  | timestamps {t : Token} : t.lexeme = .keyword .timestamps → MemberDef [t] .timestamps

/-- Members with commas between them. -/
inductive MemberList : List Token → List Member → Prop where
  | single {ts : List Token} {m : Member} : MemberDef ts m → MemberList ts [m]
  | multiple {ts us : List Token} {comma : Token} {ms : List Member} {m : Member} :
      MemberList ts ms → comma.lexeme = .mark .comma → MemberDef us m →
      MemberList (ts ++ comma :: us) (ms ++ [m])

/-! ## Schemas -/

/-- An optional relation, as a name or as a text. -/
inductive RelationClause : List Token → Option String → Prop where
  | none : RelationClause [] none
  | identifier {word relation : Token} {r : String} : word.lexeme = .keyword .as →
      relation.lexeme = .identifier r → RelationClause [word, relation] (some r)
  | string {word relation : Token} {r : String} : word.lexeme = .keyword .as →
      relation.lexeme = .string r → RelationClause [word, relation] (some r)

/-- A schema. A comma may follow its last member. -/
inductive SchemaDef : List Token → Declaration → Prop where
  | members {word name opening closing : Token} {rs ts : List Token} {n : String}
      {r : Option String} {ms : List Member} : word.lexeme = .keyword .schema →
      name.lexeme = .identifier n → RelationClause rs r → opening.lexeme = .mark .leftBrace →
      MemberList ts ms → closing.lexeme = .mark .rightBrace →
      SchemaDef (word :: name :: (rs ++ opening :: (ts ++ [closing]))) ⟨n, r, ms⟩
  | trailingComma {word name opening comma closing : Token} {rs ts : List Token} {n : String}
      {r : Option String} {ms : List Member} : word.lexeme = .keyword .schema →
      name.lexeme = .identifier n → RelationClause rs r → opening.lexeme = .mark .leftBrace →
      MemberList ts ms → comma.lexeme = .mark .comma → closing.lexeme = .mark .rightBrace →
      SchemaDef (word :: name :: (rs ++ opening :: (ts ++ [comma, closing]))) ⟨n, r, ms⟩
  | empty {word name opening closing : Token} {rs : List Token} {n : String}
      {r : Option String} : word.lexeme = .keyword .schema → name.lexeme = .identifier n →
      RelationClause rs r → opening.lexeme = .mark .leftBrace →
      closing.lexeme = .mark .rightBrace →
      SchemaDef (word :: name :: (rs ++ [opening, closing])) ⟨n, r, []⟩

/-- Schemas, one after the other. -/
inductive StatementList : List Token → List Declaration → Prop where
  | single {ts : List Token} {d : Declaration} : SchemaDef ts d → StatementList ts [d]
  | multiple {ts us : List Token} {ds : List Declaration} {d : Declaration} :
      StatementList ts ds → SchemaDef us d → StatementList (ts ++ us) (ds ++ [d])

/-- A schema text. -/
inductive SchemaFile : List Token → List Declaration → Prop where
  | statements {ts : List Token} {ds : List Declaration} : StatementList ts ds → SchemaFile ts ds
  | empty : SchemaFile [] []

theorem SchemaFile.snoc {ts us : List Token} {ds : List Declaration} {d : Declaration}
    (h : SchemaFile ts ds) (hd : SchemaDef us d) : SchemaFile (ts ++ us) (ds ++ [d]) := by
  cases h with
  | statements hs => exact .statements (.multiple hs hd)
  | empty => exact .statements (.single hd)

/-- A row of tokens with which a schema text can begin. -/
def Viable (ts : List Token) : Prop := ∃ rest ds, SchemaFile (ts ++ rest) ds

end RecordMapper.Production
