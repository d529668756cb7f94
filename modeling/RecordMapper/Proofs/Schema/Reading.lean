import Mathlib.Data.List.Induction
import RecordMapper.Proofs.Outcome
import RecordMapper.Proofs.Schema.Productions
import RecordMapper.Schema.Grammar

/-! # Reading the productions

The reader goes from state to state. A state stands for the part of a derivation that was read
since the last schema was complete, and every state can be completed. So the reader takes exactly
what can be derived, and what it stops at is the first token that no derivation has there. -/

namespace RecordMapper.Grammar

open Production

/-! ## Runs -/

/-- The state after a row of tokens and the schemas that they complete; none where one of the tokens
cannot stand. -/
def run (s : State) : List Token → Option (State × List Declaration)
  | [] => some (s, [])
  | t :: ts => do
    let (s, d) ← advance s t
    let (s, ds) ← run s ts
    return (s, d.toList ++ ds)

theorem run_append (s : State) (ts us : List Token) :
    run s (ts ++ us) = (do
      let (s, ds) ← run s ts
      let (s, es) ← run s us
      return (s, ds ++ es)) := by
  induction ts generalizing s with
  | nil =>
      cases h : run s us <;> simp [run, h]
  | cons t ts ih => simp [run, ih, List.append_assoc, Option.bind_assoc]

theorem run_append_eq_some {s s' s'' : State} {ts us : List Token} {ds es : List Declaration}
    (h : run s ts = some (s', ds)) (hu : run s' us = some (s'', es)) :
    run s (ts ++ us) = some (s'', ds ++ es) := by
  simp [run_append, h, hu]

theorem run_singleton (s : State) (t : Token) :
    run s [t] = (advance s t).map fun x => (x.1, x.2.toList) := by
  cases h : advance s t <;> simp [run, h]

/-- Reading goes on from the state after the tokens in front. -/
theorem read_append {s s' : State} {ts us : List Token} {ds : List Declaration}
    (h : run s ts = some (s', ds)) : read s (ts ++ us) = (read s' us).map (ds ++ ·) := by
  induction ts generalizing s ds with
  | nil =>
      obtain ⟨rfl, rfl⟩ : s = s' ∧ [] = ds := by simpa [run] using h
      cases hread : read s us <;> simp [Except.map, hread]
  | cons t ts ih =>
      simp only [run, Option.bind_eq_bind, Option.bind_eq_some_iff, Option.pure_def,
        Option.some.injEq, Prod.mk.injEq, Prod.exists] at h
      obtain ⟨s₁, d, hadvance, s₂, es, hrun, rfl, rfl⟩ := h
      rw [List.cons_append, read, hadvance]
      cases d with
      | none => exact ih hrun
      | some d =>
          simp only [ih hrun]
          cases read s₂ us <;> rfl

/-- Reading ends in one of three ways: outside of all schemas, at a token that cannot stand where it
stands, or within a schema. -/
theorem read_cases (s : State) (ts : List Token) :
    (∃ ds, run s ts = some (.outside, ds) ∧ read s ts = .ok ds) ∨
      (∃ before t after s' ds, ts = before ++ t :: after ∧ run s before = some (s', ds) ∧
        advance s' t = none ∧ read s ts = .error (.unexpected t)) ∨
      (∃ s' ds, run s ts = some (s', ds) ∧ s' ≠ .outside ∧ read s ts = .error .ended) := by
  induction ts generalizing s with
  | nil =>
      cases s with
      | outside => exact .inl ⟨[], rfl, rfl⟩
      | _ => exact .inr (.inr ⟨_, [], rfl, by simp, rfl⟩)
  | cons t ts ih =>
      cases hadvance : advance s t with
      | none =>
          refine .inr (.inl ⟨[], t, ts, s, [], rfl, rfl, hadvance, ?_⟩)
          rw [read, hadvance]
      | some x =>
          obtain ⟨s₁, d⟩ := x
          have hone : run s [t] = some (s₁, d.toList) := by rw [run_singleton, hadvance]; rfl
          have hread : read s (t :: ts) = (read s₁ ts).map (d.toList ++ ·) := read_append hone
          rcases ih s₁ with ⟨ds, hrun, hok⟩ | ⟨before, u, after, s', ds, rfl, hrun, hstop, herror⟩ |
            ⟨s', ds, hrun, hne, herror⟩
          · exact .inl ⟨d.toList ++ ds, run_append_eq_some hone hrun, by rw [hread, hok]; rfl⟩
          · refine .inr (.inl ⟨t :: before, u, after, s', d.toList ++ ds, rfl,
              run_append_eq_some hone hrun, hstop, ?_⟩)
            rw [hread, herror]
            rfl
          · refine .inr (.inr ⟨s', d.toList ++ ds, run_append_eq_some hone hrun, hne, ?_⟩)
            rw [hread, herror]
            rfl

/-! ## What is derived is read -/

/-- At the place the members are complete: a comma or a closing brace can follow them. -/
def Settles (members : List Member) (place : Place) (all : List Member) : Prop :=
  ∀ line lexeme, lexeme = .mark .comma ∨ lexeme = .mark .rightBrace →
    step members place line lexeme = afterMember all lexeme

theorem settles_afterMember (members : List Member) : Settles members .afterMember members :=
  fun _ _ _ => rfl

theorem settles_modifiers (members : List Member) (d : FieldDeclaration) :
    Settles members (.modifiers d) (members ++ [.field d]) := by
  rintro line lexeme (rfl | rfl) <;> rfl

theorem settles_relationshipEnd (members : List Member) (kind : RelationshipKind)
    (name related : String) :
    Settles members (.relationshipEnd kind name related)
      (members ++ [.relationship ⟨kind, name, related, none⟩]) := by
  rintro line lexeme (rfl | rfl) <;> rfl

section

variable {name : String} {relation : Option String} {members : List Member}

theorem run_modifierList {d : FieldDeclaration} {ts : List Token} {ks : List Keyword}
    (h : ModifierList ts ks) :
    run (.inside name relation members (.modifiers d)) ts =
      some (.inside name relation members (.modifiers { d with
        virtual := d.virtual || ks.contains .virtual
        primaryKey := d.primaryKey || ks.contains .primaryKey }), []) := by
  induction h with
  | nil => simp [run]
  | virtual _ ht ih => simp [run_append, ih, run, advance, step, ht]
  | primaryKey _ ht ih => simp [run_append, ih, run, advance, step, ht]

theorem ofLexeme?_eq_some_iff {l : Lexeme} {v : Literal} :
    Literal.ofLexeme? l = some v ↔ IsLiteral l v := by
  constructor
  · intro h
    unfold Literal.ofLexeme? at h
    split at h <;> simp only [Option.some.injEq, reduceCtorEq] at h <;> subst h <;> constructor
  · rintro ⟨⟩ <;> rfl

/-- After a field the members are complete. -/
theorem run_fieldDef {ts : List Token} {d : FieldDeclaration} (h : FieldDef ts d) :
    ∃ place members', run (.inside name relation members .member) ts =
        some (.inside name relation members' place, []) ∧
      Settles members' place (members ++ [.field d]) := by
  obtain @⟨t, colon, kind, n, k, ms, ds, ks, v, hname, hcolon, hkind, hmodifiers, hdefault⟩ := h
  have hstart : run (.inside name relation members .member) [t, colon, kind] =
      some (.inside name relation members
        (.modifiers ⟨n, t.line, k, false, false, .null⟩), []) := by
    simp [run, advance, step, memberStart, hname, hcolon, hkind]
  have hmarked := run_append_eq_some hstart (run_modifierList hmodifiers)
  cases hdefault with
  | none =>
      refine ⟨_, _, by simpa using hmarked, ?_⟩
      simpa using settles_modifiers members _
  | @literal equals value v hequals hvalue =>
      have hliteral := ofLexeme?_eq_some_iff.mpr hvalue
      have hend : ∀ d : FieldDeclaration,
          run (.inside name relation members (.modifiers d)) [equals, value] =
            some (.inside name relation (members ++ [.field { d with default := v }])
              .afterMember, []) := by
        simp [run, advance, step, hequals, hliteral]
      refine ⟨.afterMember, _, by simpa using run_append_eq_some hmarked (hend _), ?_⟩
      simpa using settles_afterMember _

theorem relationshipKind?_eq_some_iff {l : Lexeme} {kind : RelationshipKind} :
    (∃ k, l = .keyword k ∧ relationshipKind? k = some kind) ↔ KindWord l kind := by
  constructor
  · rintro ⟨k, rfl, h⟩
    unfold relationshipKind? at h
    split at h <;> simp only [Option.some.injEq, reduceCtorEq] at h <;> subst h <;> constructor
  · rintro ⟨⟩ <;> exact ⟨_, rfl, rfl⟩

/-- After a relationship the members are complete. -/
theorem run_relationshipDef {ts : List Token} {d : RelationshipDeclaration}
    (h : RelationshipDef ts d) :
    ∃ place members', run (.inside name relation members .member) ts =
        some (.inside name relation members' place, []) ∧
      Settles members' place (members ++ [.relationship d]) := by
  obtain @⟨word, t, colon, related, kind, n, r, ts, key, hkind, hname, hcolon, hrelated, hkey⟩ := h
  have hstart : run (.inside name relation members .member) [word, t, colon, related] =
      some (.inside name relation members (.relationshipEnd kind n r), []) := by
    cases hkind' : word.lexeme <;> rw [hkind'] at hkind <;> cases hkind <;>
      simp [run, advance, step, memberStart, relationshipKind?, hkind', hname, hcolon, hrelated]
  cases hkey with
  | none =>
      exact ⟨_, _, hstart, settles_relationshipEnd members kind n r⟩
  | @key word' t' k hword hkey =>
      have hend : run (.inside name relation members (.relationshipEnd kind n r)) [word', t'] =
          some (.inside name relation (members ++ [.relationship ⟨kind, n, r, some k⟩])
            .afterMember, []) := by
        simp [run, advance, step, hword, hkey]
      exact ⟨_, _, run_append_eq_some hstart hend, settles_afterMember _⟩

theorem run_memberDef {ts : List Token} {m : Member} (h : MemberDef ts m) :
    ∃ place members', run (.inside name relation members .member) ts =
        some (.inside name relation members' place, []) ∧
      Settles members' place (members ++ [m]) := by
  cases h with
  | field h => exact run_fieldDef h
  | relationship h => exact run_relationshipDef h
  | timestamps ht =>
      refine ⟨.afterMember, _, ?_, settles_afterMember _⟩
      simp [run, advance, step, memberStart, ht]

/-- After the last member of a list a comma leads to the next one. -/
theorem run_comma {members' : List Member} {place : Place} (h : Settles members' place members)
    {t : Token} (ht : t.lexeme = .mark .comma) :
    run (.inside name relation members' place) [t] =
      some (.inside name relation members .member, []) := by
  have hstep := h t.line _ (.inl rfl)
  simp [run, advance, hstep, ht, afterMember]

/-- After the last member of a list a closing brace ends the schema. -/
theorem run_closing {members' : List Member} {place : Place} (h : Settles members' place members)
    {t : Token} (ht : t.lexeme = .mark .rightBrace) :
    run (.inside name relation members' place) [t] =
      some (.outside, [⟨name, relation, members⟩]) := by
  have hstep := h t.line _ (.inr rfl)
  simp [run, advance, hstep, ht, afterMember]

end

theorem run_memberList (name : String) (relation : Option String) {ts : List Token}
    {ms : List Member} (h : MemberList ts ms) :
    ∃ place members', run (.inside name relation [] .member) ts =
        some (.inside name relation members' place, []) ∧ Settles members' place ms := by
  induction h with
  | single hm => exact run_memberDef hm
  | multiple _ hcomma hm ih =>
      obtain ⟨place, members', hrun, hsettles⟩ := ih
      have hnext := run_append_eq_some hrun (run_comma hsettles hcomma)
      obtain ⟨place', members'', hrun', hsettles'⟩ := run_memberDef hm
      refine ⟨place', members'', ?_, hsettles'⟩
      simpa using run_append_eq_some hnext hrun'

theorem run_schemaHead {word name brace : Token} {rs : List Token} {n : String}
    {r : Option String} (hword : word.lexeme = .keyword .schema)
    (hname : name.lexeme = .identifier n) (hrelation : RelationClause rs r)
    (hbrace : brace.lexeme = .mark .leftBrace) :
    run .outside (word :: name :: (rs ++ [brace])) = some (.inside n r [] .member, []) := by
  cases hrelation with
  | none => simp [run, advance, hword, hname, hbrace]
  | identifier has hr => simp [run, advance, hword, hname, hbrace, has, hr]
  | string has hr => simp [run, advance, hword, hname, hbrace, has, hr]

theorem run_brace {t : Token} (ht : t.lexeme = .mark .rightBrace) (name : String)
    (relation : Option String) (members : List Member) :
    run (.inside name relation members .member) [t] =
      some (.outside, [⟨name, relation, members⟩]) := by
  simp [run, advance, step, memberStart, ht]

theorem run_schemaDef {ts : List Token} {d : Declaration} (h : SchemaDef ts d) :
    run .outside ts = some (.outside, [d]) := by
  cases h with
  | @members word name opening closing rs ts n r ms hword hname hrelation hopening hms hclosing =>
      have hhead := run_schemaHead hword hname hrelation hopening
      obtain ⟨place, members, hrun, hsettles⟩ := run_memberList n r hms
      have hend := run_append_eq_some hrun (run_closing hsettles hclosing)
      simpa using run_append_eq_some hhead hend
  | @trailingComma word name opening comma closing rs ts n r ms hword hname hrelation hopening hms
      hcomma hclosing =>
      have hhead := run_schemaHead hword hname hrelation hopening
      obtain ⟨place, members, hrun, hsettles⟩ := run_memberList n r hms
      have hnext := run_append_eq_some hrun (run_comma hsettles hcomma)
      have hend := run_append_eq_some hnext (run_brace hclosing n r ms)
      simpa using run_append_eq_some hhead hend
  | @empty word name opening closing rs n r hword hname hrelation hopening hclosing =>
      have hhead := run_schemaHead hword hname hrelation hopening
      simpa using run_append_eq_some hhead (run_brace hclosing n r [])

/-- What is derived from the productions leads from one end of the text to the other. -/
theorem run_schemaFile {ts : List Token} {ds : List Declaration} (h : SchemaFile ts ds) :
    run .outside ts = some (.outside, ds) := by
  cases h with
  | empty => rfl
  | statements h =>
      induction h with
      | single h => exact run_schemaDef h
      | multiple _ h ih => exact run_append_eq_some ih (run_schemaDef h)

/-! ## What is read is derived -/

/-- What stands before a member: nothing, or members and a comma. -/
inductive Started : List Token → List Member → Prop where
  | first : Started [] []
  | next {ts : List Token} {t : Token} {ms : List Member} : MemberList ts ms →
      t.lexeme = .mark .comma → Started (ts ++ [t]) ms

theorem Started.memberList {ts us : List Token} {ms : List Member} {m : Member}
    (h : Started ts ms) (hm : MemberDef us m) : MemberList (ts ++ us) (ms ++ [m]) := by
  cases h with
  | first => exact .single hm
  | next hms ht => simpa using MemberList.multiple hms ht hm

/-- The name, the kind and the marks of a field. -/
inductive MarkedField : List Token → FieldDeclaration → Prop where
  | field {name colon kind : Token} {n k : String} {ms : List Token} {ks : List Keyword} :
      name.lexeme = .identifier n → colon.lexeme = .mark .colon → kind.lexeme = .identifier k →
      ModifierList ms ks → MarkedField (name :: colon :: kind :: ms)
        ⟨n, name.line, k, ks.contains .virtual, ks.contains .primaryKey, .null⟩

theorem MarkedField.fieldDef {ts us : List Token} {d : FieldDeclaration} {v : Literal}
    (h : MarkedField ts d) (hv : DefaultClause us v) :
    FieldDef (ts ++ us) { d with default := v } := by
  obtain ⟨hname, hcolon, hkind, hmodifiers⟩ := h
  exact .field hname hcolon hkind hmodifiers hv

/-- The tokens that a place within the members stands for. -/
inductive Within : List Member → Place → List Token → Prop where
  | member {ts : List Token} {ms : List Member} : Started ts ms → Within ms .member ts
  | afterMember {ts : List Token} {ms : List Member} : MemberList ts ms →
      Within ms .afterMember ts
  | fieldColon {ts : List Token} {t : Token} {ms : List Member} {n : String} : Started ts ms →
      t.lexeme = .identifier n → Within ms (.fieldColon n t.line) (ts ++ [t])
  | fieldKind {ts : List Token} {t colon : Token} {ms : List Member} {n : String} :
      Started ts ms → t.lexeme = .identifier n → colon.lexeme = .mark .colon →
      Within ms (.fieldKind n t.line) (ts ++ [t, colon])
  | modifiers {ts us : List Token} {ms : List Member} {d : FieldDeclaration} : Started ts ms →
      MarkedField us d → Within ms (.modifiers d) (ts ++ us)
  | default {ts us : List Token} {t : Token} {ms : List Member} {d : FieldDeclaration} :
      Started ts ms → MarkedField us d → t.lexeme = .mark .equals →
      Within ms (.default d) (ts ++ (us ++ [t]))
  | relationshipName {ts : List Token} {word : Token} {ms : List Member}
      {kind : RelationshipKind} : Started ts ms → KindWord word.lexeme kind →
      Within ms (.relationshipName kind) (ts ++ [word])
  | relationshipColon {ts : List Token} {word name : Token} {ms : List Member}
      {kind : RelationshipKind} {n : String} : Started ts ms → KindWord word.lexeme kind →
      name.lexeme = .identifier n → Within ms (.relationshipColon kind n) (ts ++ [word, name])
  | related {ts : List Token} {word name colon : Token} {ms : List Member}
      {kind : RelationshipKind} {n : String} : Started ts ms → KindWord word.lexeme kind →
      name.lexeme = .identifier n → colon.lexeme = .mark .colon →
      Within ms (.related kind n) (ts ++ [word, name, colon])
  | relationshipEnd {ts us : List Token} {ms : List Member} {kind : RelationshipKind}
      {n r : String} : Started ts ms → RelationshipDef us ⟨kind, n, r, none⟩ →
      Within ms (.relationshipEnd kind n r) (ts ++ us)
  | foreignKey {ts : List Token} {word name colon related key : Token} {ms : List Member}
      {kind : RelationshipKind} {n r : String} : Started ts ms → KindWord word.lexeme kind →
      name.lexeme = .identifier n → colon.lexeme = .mark .colon →
      related.lexeme = .identifier r → key.lexeme = .keyword .foreignKey →
      Within ms (.foreignKey kind n r) (ts ++ [word, name, colon, related, key])

/-- The members of a schema with its closing brace. -/
inductive Body : List Token → List Member → Prop where
  | members {ts : List Token} {t : Token} {ms : List Member} : MemberList ts ms →
      t.lexeme = .mark .rightBrace → Body (ts ++ [t]) ms
  | started {ts : List Token} {t : Token} {ms : List Member} : Started ts ms →
      t.lexeme = .mark .rightBrace → Body (ts ++ [t]) ms

/-- What the next place, or the end of the members, stands for. -/
def Reaches (ts : List Token) : Next → Prop
  | .at ms place => Within ms place ts
  | .closed ms => Body ts ms

theorem reaches_of_afterMember {ts : List Token} {ms : List Member} {t : Token} {next : Next}
    (h : MemberList ts ms) (hnext : afterMember ms t.lexeme = some next) :
    Reaches (ts ++ [t]) next := by
  unfold afterMember at hnext
  split at hnext <;> simp only [Option.some.injEq, reduceCtorEq] at hnext <;> subst hnext
  · rename_i ht
    exact .member (.next h ht)
  · rename_i ht
    exact .members h ht

theorem reaches_of_memberStart {ts : List Token} {ms : List Member} {t : Token} {next : Next}
    (h : Started ts ms) (hnext : memberStart ms t.line t.lexeme = some next) :
    Reaches (ts ++ [t]) next := by
  unfold memberStart at hnext
  split at hnext
  · rename_i ht
    obtain rfl := Option.some.inj hnext
    exact .started h ht
  · rename_i ht
    obtain rfl := Option.some.inj hnext
    exact .afterMember (h.memberList (.timestamps ht))
  · rename_i n ht
    obtain rfl := Option.some.inj hnext
    exact .fieldColon h ht
  · rename_i k _ ht
    obtain ⟨kind, hkind, rfl⟩ := Option.map_eq_some_iff.mp hnext
    exact .relationshipName h (relationshipKind?_eq_some_iff.mp ⟨k, ht, hkind⟩)
  · cases hnext

/-- A token leads from the tokens of a place to those of the next one. -/
theorem reaches_of_step {ts : List Token} {ms : List Member} {place : Place} {t : Token}
    {next : Next} (h : Within ms place ts) (hstep : step ms place t.line t.lexeme = some next) :
    Reaches (ts ++ [t]) next := by
  cases h with
  | member hs => exact reaches_of_memberStart hs hstep
  | afterMember hms => exact reaches_of_afterMember hms hstep
  | fieldColon hs hname =>
      simp only [step] at hstep
      split at hstep
      · rename_i ht
        obtain rfl := Option.some.inj hstep
        simpa [Reaches] using Within.fieldKind hs hname ht
      · cases hstep
  | fieldKind hs hname hcolon =>
      simp only [step] at hstep
      split at hstep
      · rename_i k ht
        obtain rfl := Option.some.inj hstep
        simpa [Reaches] using Within.modifiers hs (.field hname hcolon ht .nil)
      · cases hstep
  | @modifiers ts us ms d hs hfield =>
      simp only [step] at hstep
      split at hstep
      · rename_i ht
        obtain rfl := Option.some.inj hstep
        obtain ⟨hname, hcolon, hkind, hmodifiers⟩ := hfield
        simpa [Reaches] using Within.modifiers hs (.field hname hcolon hkind (.virtual hmodifiers ht))
      · rename_i ht
        obtain rfl := Option.some.inj hstep
        obtain ⟨hname, hcolon, hkind, hmodifiers⟩ := hfield
        simpa [Reaches] using Within.modifiers hs (.field hname hcolon hkind (.primaryKey hmodifiers ht))
      · rename_i ht
        obtain rfl := Option.some.inj hstep
        simpa [Reaches] using Within.default hs hfield ht
      · have hdef : FieldDef us d := by
          have hplain := hfield.fieldDef .none
          obtain ⟨-, -, -, -⟩ := hfield
          simpa using hplain
        exact reaches_of_afterMember (hs.memberList (.field hdef)) hstep
  | default hs hfield hequals =>
      simp only [step] at hstep
      obtain ⟨v, hv, rfl⟩ := Option.map_eq_some_iff.mp hstep
      have hdef := hfield.fieldDef (.literal hequals (ofLexeme?_eq_some_iff.mp hv))
      simpa [Reaches] using Within.afterMember (hs.memberList (.field hdef))
  | relationshipName hs hkind =>
      simp only [step] at hstep
      split at hstep
      · rename_i n ht
        obtain rfl := Option.some.inj hstep
        simpa [Reaches] using Within.relationshipColon hs hkind ht
      · cases hstep
  | relationshipColon hs hkind hname =>
      simp only [step] at hstep
      split at hstep
      · rename_i ht
        obtain rfl := Option.some.inj hstep
        simpa [Reaches] using Within.related hs hkind hname ht
      · cases hstep
  | related hs hkind hname hcolon =>
      simp only [step] at hstep
      split at hstep
      · rename_i r ht
        obtain rfl := Option.some.inj hstep
        simpa [Reaches] using Within.relationshipEnd hs (.relationship hkind hname hcolon ht .none)
      · cases hstep
  | relationshipEnd hs hdef =>
      simp only [step] at hstep
      split at hstep
      · rename_i ht
        obtain rfl := Option.some.inj hstep
        obtain ⟨hkind, hname, hcolon, hrelated, hkey⟩ := hdef
        cases hkey
        simpa [Reaches] using Within.foreignKey hs hkind hname hcolon hrelated ht
      · exact reaches_of_afterMember (hs.memberList (.relationship hdef)) hstep
  | foreignKey hs hkind hname hcolon hrelated hword =>
      simp only [step] at hstep
      split at hstep
      · rename_i k ht
        obtain rfl := Option.some.inj hstep
        have hdef := RelationshipDef.relationship hkind hname hcolon hrelated (.key hword ht)
        simpa [Reaches] using Within.afterMember (hs.memberList (.relationship hdef))
      · cases hstep

/-- The tokens of the current schema that a state stands for. -/
inductive Stands : State → List Token → Prop where
  | outside : Stands .outside []
  | name {word : Token} : word.lexeme = .keyword .schema → Stands .name [word]
  | relationOrBody {word name : Token} {n : String} : word.lexeme = .keyword .schema →
      name.lexeme = .identifier n → Stands (.relationOrBody n) [word, name]
  | relation {word name as : Token} {n : String} : word.lexeme = .keyword .schema →
      name.lexeme = .identifier n → as.lexeme = .keyword .as →
      Stands (.relation n) [word, name, as]
  | body {word name : Token} {rs : List Token} {n r : String} :
      word.lexeme = .keyword .schema → name.lexeme = .identifier n → RelationClause rs (some r) →
      Stands (.body n r) (word :: name :: rs)
  | inside {word name opening : Token} {rs ts : List Token} {n : String} {r : Option String}
      {ms : List Member} {place : Place} : word.lexeme = .keyword .schema →
      name.lexeme = .identifier n → RelationClause rs r → opening.lexeme = .mark .leftBrace →
      Within ms place ts → Stands (.inside n r ms place) (word :: name :: (rs ++ opening :: ts))

theorem schemaDef_of_body {word name opening : Token} {rs ts : List Token} {n : String}
    {r : Option String} {ms : List Member} (hword : word.lexeme = .keyword .schema)
    (hname : name.lexeme = .identifier n) (hrelation : RelationClause rs r)
    (hopening : opening.lexeme = .mark .leftBrace) (h : Body ts ms) :
    SchemaDef (word :: name :: (rs ++ opening :: ts)) ⟨n, r, ms⟩ := by
  cases h with
  | members hms ht => exact .members hword hname hrelation hopening hms ht
  | started hs ht =>
      cases hs with
      | first => exact .empty hword hname hrelation hopening ht
      | next hms hcomma =>
          simpa using SchemaDef.trailingComma hword hname hrelation hopening hms hcomma ht

/-- A token leads to the next state of the schema, or completes it. -/
theorem stands_of_advance {s s' : State} {ts : List Token} {t : Token} {d : Option Declaration}
    (h : Stands s ts) (hadvance : advance s t = some (s', d)) :
    (d = none ∧ Stands s' (ts ++ [t])) ∨
      ∃ d', d = some d' ∧ s' = .outside ∧ SchemaDef (ts ++ [t]) d' := by
  cases h with
  | outside =>
      simp only [advance] at hadvance
      split at hadvance <;> cases hadvance
      rename_i ht
      exact .inl ⟨rfl, .name ht⟩
  | name hword =>
      simp only [advance] at hadvance
      split at hadvance <;> cases hadvance
      rename_i ht
      exact .inl ⟨rfl, .relationOrBody hword ht⟩
  | relationOrBody hword hname =>
      simp only [advance] at hadvance
      split at hadvance <;> cases hadvance
      · rename_i ht
        exact .inl ⟨rfl, .relation hword hname ht⟩
      · rename_i ht
        exact .inl ⟨rfl, .inside hword hname .none ht (.member .first)⟩
  | relation hword hname has =>
      simp only [advance] at hadvance
      split at hadvance <;> cases hadvance
      · rename_i ht
        exact .inl ⟨rfl, .body hword hname (.identifier has ht)⟩
      · rename_i ht
        exact .inl ⟨rfl, .body hword hname (.string has ht)⟩
  | body hword hname hrelation =>
      simp only [advance] at hadvance
      split at hadvance <;> cases hadvance
      rename_i ht
      exact .inl ⟨rfl, .inside hword hname hrelation ht (.member .first)⟩
  | inside hword hname hrelation hopening hwithin =>
      simp only [advance, Option.map_eq_some_iff] at hadvance
      obtain ⟨next, hstep, hnext⟩ := hadvance
      have hreaches := reaches_of_step hwithin hstep
      cases next with
      | «at» ms place =>
          cases hnext
          refine .inl ⟨rfl, ?_⟩
          simpa using Stands.inside hword hname hrelation hopening hreaches
      | closed ms =>
          cases hnext
          refine .inr ⟨_, rfl, rfl, ?_⟩
          simpa using schemaDef_of_body hword hname hrelation hopening hreaches

/-- A run from the beginning of a text has read schemas, and what its state stands for. -/
theorem schemaFile_of_run {s : State} {ts : List Token} {ds : List Declaration}
    (h : run .outside ts = some (s, ds)) :
    ∃ us vs, ts = us ++ vs ∧ SchemaFile us ds ∧ Stands s vs := by
  induction ts using List.reverseRecOn generalizing s ds with
  | nil =>
      obtain ⟨rfl, rfl⟩ : State.outside = s ∧ [] = ds := by simpa [run] using h
      exact ⟨[], [], rfl, .empty, .outside⟩
  | append_singleton ts t ih =>
      simp only [run_append, run_singleton, Option.bind_eq_bind, Option.bind_eq_some_iff,
        Option.map_eq_some_iff, Option.pure_def, Option.some.injEq, Prod.mk.injEq,
        Prod.exists] at h
      obtain ⟨s₁, es, hrun, s₂, fs, ⟨s₃, d, hadvance, rfl, rfl⟩, rfl, rfl⟩ := h
      obtain ⟨us, vs, rfl, hfile, hstands⟩ := ih hrun
      rcases stands_of_advance hstands hadvance with ⟨rfl, hnext⟩ | ⟨d, rfl, rfl, hdef⟩
      · exact ⟨us, vs ++ [t], by simp, by simpa using hfile, hnext⟩
      · exact ⟨us ++ (vs ++ [t]), [], by simp, hfile.snoc hdef, .outside⟩

theorem run_outside_iff {ts : List Token} {ds : List Declaration} :
    run .outside ts = some (.outside, ds) ↔ SchemaFile ts ds := by
  refine ⟨?_, run_schemaFile⟩
  intro h
  obtain ⟨us, vs, rfl, hfile, hstands⟩ := schemaFile_of_run h
  cases hstands
  simpa using hfile

/-! ## Every state can be completed -/

/-- A token of no particular place. -/
def tokenOf (lexeme : Lexeme) : Token := ⟨lexeme, 1, 0⟩

/-- Lexemes that complete the members from a place on. -/
def placeEnding : Place → List Lexeme
  | .member | .afterMember | .modifiers _ | .relationshipEnd .. => [.mark .rightBrace]
  | .fieldColon .. => [.mark .colon, .identifier "", .mark .rightBrace]
  | .fieldKind .. | .related .. | .foreignKey .. => [.identifier "", .mark .rightBrace]
  | .default _ => [.keyword .null, .mark .rightBrace]
  | .relationshipName _ =>
    [.identifier "", .mark .colon, .identifier "", .mark .rightBrace]
  | .relationshipColon .. => [.mark .colon, .identifier "", .mark .rightBrace]

/-- Lexemes that complete the current schema from a state on. -/
def ending : State → List Lexeme
  | .outside => []
  | .name => [.identifier "", .mark .leftBrace, .mark .rightBrace]
  | .relationOrBody _ => [.mark .leftBrace, .mark .rightBrace]
  | .relation _ => [.identifier "", .mark .leftBrace, .mark .rightBrace]
  | .body .. => [.mark .leftBrace, .mark .rightBrace]
  | .inside _ _ _ place => placeEnding place

theorem run_ending (s : State) :
    ∃ ds, run s ((ending s).map tokenOf) = some (.outside, ds) := by
  cases s with
  | inside name relation members place => cases place <;> exact ⟨_, rfl⟩
  | _ => exact ⟨_, rfl⟩

/-- A row of tokens can begin a schema text exactly when the reader gets to its end. -/
theorem viable_iff {ts : List Token} :
    Viable ts ↔ ∃ s ds, run .outside ts = some (s, ds) := by
  constructor
  · rintro ⟨rest, ds, h⟩
    have hrun := run_schemaFile h
    rw [run_append] at hrun
    cases hts : run .outside ts with
    | none => simp [hts] at hrun
    | some x => exact ⟨x.1, x.2, rfl⟩
  · rintro ⟨s, ds, hrun⟩
    obtain ⟨es, hend⟩ := run_ending s
    exact ⟨_, _, run_outside_iff.mp (run_append_eq_some hrun hend)⟩

/-! ## The two outcomes -/

/-- Exactly what is derived is read, with its declarations. -/
theorem read_eq_ok_iff {ts : List Token} {ds : List Declaration} :
    read .outside ts = .ok ds ↔ SchemaFile ts ds := by
  rw [← run_outside_iff]
  rcases read_cases .outside ts with ⟨es, hrun, hread⟩ | ⟨before, t, after, s, es, rfl, hrun,
    hstop, hread⟩ | ⟨s, es, hrun, hne, hread⟩
  · simp [hrun, hread]
  · have hnone : run .outside (before ++ t :: after) = none := by
      simp [run_append, hrun, run, hstop]
    simp [hread, hnone]
  · simp [hrun, hread, hne]

/-- The first fault of a row of tokens, and the text that names it: the first token with which what
was read can no longer be completed, or the end. -/
inductive FirstFault (ts : List Token) : GrammarError → String → Prop where
  | unexpected {before after : List Token} {t : Token} : ts = before ++ t :: after →
      Viable before → ¬ Viable (before ++ [t]) →
      FirstFault ts (.unexpected t)
        ("Syntax error at '" ++ t.lexeme.text ++ "' (line " ++ toString t.line ++ ")")
  | ended : Viable ts → FirstFault ts .ended "Syntax error at end of input"

/-- What is not derived is refused for its first fault. -/
theorem firstFault_of_not_schemaFile {ts : List Token} (h : ∀ ds, ¬ SchemaFile ts ds) :
    ∃ e, FirstFault ts e e.message ∧ read .outside ts = .error e := by
  rcases read_cases .outside ts with ⟨ds, hrun, -⟩ | ⟨before, t, after, s, ds, rfl, hrun, hstop,
    hread⟩ | ⟨s, ds, hrun, -, hread⟩
  · exact absurd (run_outside_iff.mp hrun) (h ds)
  · refine ⟨.unexpected t, .unexpected rfl (viable_iff.mpr ⟨s, ds, hrun⟩) ?_, hread⟩
    rw [viable_iff]
    rintro ⟨s', ds', hnext⟩
    simp [run_append, hrun, run, hstop] at hnext
  · exact ⟨.ended, .ended (viable_iff.mpr ⟨s, ds, hrun⟩), hread⟩

end RecordMapper.Grammar
