import RecordMapper.Proofs.Schema.Consistency
import RecordMapper.Proofs.Schema.Lexing
import RecordMapper.Proofs.Schema.Reading

/-! # Schema texts that fail in another way

A schema text is refused for its syntax or for the schemas that it declares. Three things in a text
fail in another way instead: an integer of too many digits, a broken escape, and a default whose
conversion fails. Each is seen only when nothing before it is refused. -/

namespace RecordMapper

open Outcome Production Grammar Cast Number Text

/-- Whether an error is one of syntax or of a schema, as the reader of schema texts documents. -/
def SchemaTextError.isDocumented : SchemaTextError → Bool
  | .lex (.illegal ..) | .grammar _ | .schema _ => true
  | .lex (.longNumeral _) | .lex .brokenEscape | .cast _ => false

/-! ## Literals -/

namespace Production

variable {i : Int}

/-- The integer stands among the tokens. -/
def Written (ts : List Token) (i : Int) : Prop := ∃ t ∈ ts, t.lexeme = .integer i

theorem Written.mono {ts us : List Token} (h : Written ts i) (hsub : ts ⊆ us) : Written us i := by
  obtain ⟨t, ht, hi⟩ := h
  exact ⟨t, hsub ht, hi⟩

theorem written_of_defaultClause {ts : List Token} {v : Literal} (h : DefaultClause ts v)
    (hv : v = .integer i) : Written ts i := by
  cases h with
  | none => cases hv
  | @literal equals value v _ hliteral =>
      subst hv
      refine ⟨value, by simp, ?_⟩
      generalize value.lexeme = lexeme at hliteral
      cases hliteral
      rfl

theorem written_of_memberDef {ts : List Token} {f : FieldDeclaration}
    (h : MemberDef ts (.field f)) (hf : f.default = .integer i) : Written ts i := by
  cases h with
  | field hfield =>
      cases hfield with
      | field _ _ _ _ hclause =>
          exact (written_of_defaultClause hclause hf).mono fun t ht => by simp [ht]

theorem written_of_memberList {ts : List Token} {ms : List Member} {f : FieldDeclaration}
    (h : MemberList ts ms) (hmem : .field f ∈ ms) (hf : f.default = .integer i) : Written ts i := by
  induction h with
  | single hdef =>
      obtain rfl := List.mem_singleton.mp hmem
      exact written_of_memberDef hdef hf
  | multiple _ _ hdef ih =>
      rcases List.mem_append.mp hmem with hmem | hmem
      · exact (ih hmem).mono (List.subset_append_left _ _)
      · obtain rfl := List.mem_singleton.mp hmem
        exact (written_of_memberDef hdef hf).mono fun t ht => by simp [ht]

theorem written_of_schemaDef {ts : List Token} {d : Declaration} {f : FieldDeclaration}
    (h : SchemaDef ts d) (hmem : .field f ∈ d.members) (hf : f.default = .integer i) :
    Written ts i := by
  cases h with
  | members _ _ _ _ hlist _ =>
      exact (written_of_memberList hlist hmem hf).mono fun t ht => by simp [ht]
  | trailingComma _ _ _ _ hlist _ _ =>
      exact (written_of_memberList hlist hmem hf).mono fun t ht => by simp [ht]
  | empty => cases hmem

theorem written_of_statementList {ts : List Token} {ds : List Declaration} {d : Declaration}
    {f : FieldDeclaration} (h : StatementList ts ds) (hd : d ∈ ds) (hmem : .field f ∈ d.members)
    (hf : f.default = .integer i) : Written ts i := by
  induction h with
  | single hdef =>
      obtain rfl := List.mem_singleton.mp hd
      exact written_of_schemaDef hdef hmem hf
  | multiple _ hdef ih =>
      rcases List.mem_append.mp hd with hd | hd
      · exact (ih hd).mono (List.subset_append_left _ _)
      · obtain rfl := List.mem_singleton.mp hd
        exact (written_of_schemaDef hdef hmem hf).mono (List.subset_append_right _ _)

/-- The integers among the defaults of a schema text are written in it. -/
theorem written_of_schemaFile {ts : List Token} {ds : List Declaration} {d : Declaration}
    {f : FieldDeclaration} (h : SchemaFile ts ds) (hd : d ∈ ds) (hmem : .field f ∈ d.members)
    (hf : f.default = .integer i) : Written ts i := by
  cases h with
  | statements hlist => exact written_of_statementList hlist hd hmem hf
  | empty => cases hd

end Production

/-! ## Defaults -/

/-- The defaults whose conversion to a kind fails, although a literal of their form is taken. -/
inductive Kind.DefaultEscapes : Kind → Literal → CastError → Prop where
  | overflow {i : Int} (h : Binary64.leastOverflow ≤ i.natAbs) :
      DefaultEscapes .float (.integer i) .overflow
  | longNumeral {k : Kind} {s : String} (hk : k = .id ∨ k = .integer)
      (htext : isIntegerText (trim s.toList) = true)
      (hlong : longestNumeral < (splitSign (trim s.toList)).2.length) :
      DefaultEscapes k (.string s) (.longNumeral (splitSign (trim s.toList)).2.length)

theorem Kind.DefaultEscapes.castEscapes {k : Kind} {v : Literal} {e : CastError}
    (h : DefaultEscapes k v e) : CastEscapes k v.value e := by
  cases h with
  | overflow hlarge => exact .overflow hlarge
  | longNumeral hk htext hlong => exact .longNumeral hk htext hlong

theorem Kind.castEscapes_literal_iff {k : Kind} {v : Literal} {e : CastError}
    (h : ∀ i, v = .integer i → digitCount i.natAbs ≤ longestNumeral) :
    CastEscapes k v.value e ↔ DefaultEscapes k v e := by
  constructor
  · intro hescapes
    cases v with
    | integer i =>
        cases hescapes with
        | overflow hlarge => exact .overflow hlarge
        | longInteger hlong => exact absurd (h i rfl) (Nat.not_le_of_lt hlong)
    | string s =>
        cases hescapes with
        | longNumeral hk htext hlong => exact .longNumeral hk htext hlong
    | float x => cases hescapes
    | bool b => cases hescapes
    | null => cases hescapes
  · exact DefaultEscapes.castEscapes

theorem FieldDeclaration.resolve_eq_cast_iff {schema : String} {f : FieldDeclaration}
    {e : CastError} :
    f.resolve schema = .error (.cast e) ↔
      ∃ k, Kind.ofName? f.kind = some k ∧ Kind.CastEscapes k f.default.value e := by
  unfold resolve
  split
  · rename_i hunknown
    simp [hunknown]
  · rename_i k hk
    simp only [hk, Option.some.injEq, exists_eq_left', ← Kind.escaped_cast_iff]
    split
    · rename_i v hv
      simp [hv]
    · rename_i hmismatch
      simp [hmismatch]
    · rename_i d hne hd
      rw [hd, escaped_error_iff hne]
      simp [eq_comm]

/-! ## Declarations -/

namespace Declaration

variable {schema : String} {e : SchemaTextError} {text : String}

/-- The members of a schema give its fields up to the first one that does not. -/
theorem fields_eq_error_iff {ms : List Member} :
    fields schema ms = .error e ↔
      ∃ before m after, ms = before ++ m :: after ∧
        (∀ n ∈ before, Succeeds (memberFields schema n)) ∧ memberFields schema m = .error e := by
  induction ms with
  | nil => exact iff_of_false nofun fun ⟨before, m, after, h, _⟩ => by simp at h
  | cons m ms ih =>
      rw [exists_first_cons_iff]
      cases hm : memberFields schema m with
      | error d =>
          have hfields : fields schema (m :: ms) = .error d := by rw [fields, hm]; rfl
          rw [hfields, or_iff_left fun h => not_succeeds_error d h.1]
      | ok front =>
          have hfields : fields schema (m :: ms) = .error e ↔ fields schema ms = .error e := by
            rw [fields, hm]
            cases hms : fields schema ms with
            | error d => exact Iff.rfl
            | ok rest => exact iff_of_false nofun nofun
          rw [hfields, or_iff_right nofun, and_iff_right (succeeds_ok front)]
          exact ih

theorem memberFields_eq_cast_iff {m : Member} {e : CastError} :
    memberFields schema m = .error (.cast e) ↔
      ∃ f, m = .field f ∧ f.resolve schema = .error (.cast e) := by
  cases m with
  | field f => simp [memberFields, map_eq_error_iff]
  | relationship d => simp [memberFields]
  | timestamps => simp [memberFields]

theorem resolve_eq_cast_iff {d : Declaration} {e : CastError} :
    d.resolve = .error (.cast e) ↔ fields d.name d.members = .error (.cast e) := by
  unfold resolve
  cases fields d.name d.members with
  | error d => simp [bind, Except.bind]
  | ok fs =>
      refine iff_of_false (fun h => ?_) nofun
      dsimp only [bind, Except.bind] at h
      generalize Descriptor.define _ _ _ _ = x at h
      cases x <;> cases h

/-- How the declarations of a text are read, whose tokens and first error are given. Tokens with
which no schema text begins fail before the error does. -/
inductive ReadAs (ts : List Token) :
    Option LexError → Except SchemaTextError (List Declaration) → Prop where
  | unexpected {stop : Option LexError} {t : Token} : ¬ Viable ts →
      ReadAs ts stop (.error (.grammar (.unexpected t)))
  | lex {d : LexError} : Viable ts → ReadAs ts (some d) (.error (.lex d))
  | ended : (∀ ds, ¬ SchemaFile ts ds) → ReadAs ts none (.error (.grammar .ended))
  | ok {ds : List Declaration} : SchemaFile ts ds → ReadAs ts none (.ok ds)

theorem readAs_ofText {ts : List Token} {stop : Option LexError}
    (hscan : Token.scan text = (ts, stop)) : ReadAs ts stop (ofText text) := by
  unfold ofText ofTokens
  rcases read_cases .outside ts with ⟨ds, hrun, hread⟩ | ⟨before, t, after, s, ds, rfl, hrun, hstop,
    hread⟩ | ⟨s, ds, hrun, hne, hread⟩
  · simp only [hscan, hread]
    cases stop with
    | none => exact .ok (run_outside_iff.mp hrun)
    | some d => exact .lex (viable_iff.mpr ⟨_, ds, hrun⟩)
  · simp only [hscan, hread]
    refine .unexpected ?_
    rw [viable_iff]
    rintro ⟨s', ds', hall⟩
    simp [run_append, hrun, run, hstop] at hall
  · simp only [hscan, hread]
    cases stop with
    | none =>
        refine .ended fun ds hfile => ?_
        cases hread.symm.trans (read_eq_ok_iff.mpr hfile)
    | some d => exact .lex (viable_iff.mpr ⟨s, ds, hrun⟩)

theorem resolveAll_of_give {front back : List Declaration} {d : Declaration}
    {given : List Descriptor} (hfront : Give front given) (h : d.resolve = .error e) :
    resolveAll (front ++ d :: back) = .error e := by
  induction hfront with
  | nil => rw [List.nil_append, resolveAll, h]; rfl
  | cons hs _ ih => rw [List.cons_append, resolveAll, hs, ih]; rfl

/-! ## Reading declarations -/

theorem ofText_eq_ok_iff_front {ds : List Declaration} :
    ofText text = .ok ds ↔
      ∃ ts line, Lexer.Front 1 0 text.toList ts line [] ∧ SchemaFile ts ds := by
  constructor
  · intro h
    rcases hscan : Token.scan text with ⟨ts, stop⟩
    have hread := readAs_ofText hscan
    rw [h] at hread
    cases hread with
    | ok hfile =>
        obtain ⟨line, hfront⟩ := Lexer.scan_eq_done_iff.mp hscan
        exact ⟨ts, line, hfront, hfile⟩
  · rintro ⟨ts, line, hfront, hfile⟩
    have hread := readAs_ofText (Lexer.scan_eq_done_iff.mpr ⟨line, hfront⟩)
    generalize ofText text = x at hread ⊢
    cases hread with
    | unexpected hnot => exact absurd ⟨[], ds, by simpa using hfile⟩ hnot
    | ended hnot => exact absurd hfile (hnot ds)
    | ok hother =>
        have hsame := (read_eq_ok_iff.mpr hother).symm.trans (read_eq_ok_iff.mpr hfile)
        rw [Except.ok.inj hsame]

/-- The error of a token is seen when a schema text can begin with the tokens before it. -/
theorem ofText_eq_lex_iff {d : LexError} :
    ofText text = .error (.lex d) ↔ ∃ ts, Token.scan text = (ts, some d) ∧ Viable ts := by
  constructor
  · intro h
    rcases hscan : Token.scan text with ⟨ts, stop⟩
    have hread := readAs_ofText hscan
    rw [h] at hread
    cases hread with
    | lex hviable => exact ⟨ts, rfl, hviable⟩
  · rintro ⟨ts, hscan, hviable⟩
    have hread := readAs_ofText hscan
    generalize ofText text = x at hread ⊢
    cases hread with
    | unexpected hnot => exact absurd hviable hnot
    | lex => rfl

end Declaration

/-! ## Texts -/

/-- The errors of a text that are neither of syntax nor of a schema. Behind tokens with which a
schema text can begin, it is an integer of too many digits or a broken escape; behind members that
give their fields and schemas that can be defined, it is a default that is converted to a known
kind. -/
inductive FailsOtherwise (text : String) : SchemaTextError → Prop where
  | longNumeral {ts : List Token} {line n : Nat} {rest : List Char} :
      Lexer.Front 1 0 text.toList ts line rest → Viable ts → Lexer.LongNumeral rest n →
      FailsOtherwise text (.lex (.longNumeral n))
  | brokenEscape {ts : List Token} {line : Nat} {rest : List Char} :
      Lexer.Front 1 0 text.toList ts line rest → Viable ts → Lexer.BrokenText rest →
      FailsOtherwise text (.lex .brokenEscape)
  | default {ts : List Token} {line : Nat} {front back : List Declaration} {d : Declaration}
      {given : List Descriptor} {before after : List Member} {f : FieldDeclaration} {k : Kind}
      {e : CastError} : Lexer.Front 1 0 text.toList ts line [] →
      SchemaFile ts (front ++ d :: back) → Declaration.Give front given →
      d.members = before ++ .field f :: after →
      (∀ m ∈ before, Succeeds (Declaration.memberFields d.name m)) →
      Kind.ofName? f.kind = some k → Kind.DefaultEscapes k f.default e →
      FailsOtherwise text (.cast e)

namespace Registry

variable {r : Registry} {text : String} {e : SchemaTextError}

theorem extend_of_ofText_error (h : Declaration.ofText text = .error e) :
    r.extend text = (r, .error e) := by
  simp only [extend, h]

theorem extend_of_resolveAll_error {ds : List Declaration} (hds : Declaration.ofText text = .ok ds)
    (h : Declaration.resolveAll ds = .error e) : r.extend text = (r, .error e) := by
  simp only [extend, hds, h]

/-- The schemas of declarations that can all be defined are registered, or one of them is
refused. -/
theorem isDocumented_of_extend {ds : List Declaration} {schemas : List Descriptor}
    (hds : Declaration.ofText text = .ok ds) (hschemas : Declaration.resolveAll ds = .ok schemas)
    (h : (r.extend text).2 = .error e) : e.isDocumented = true := by
  simp only [extend, hds, hschemas] at h
  rcases hregister : r.registerAll schemas with ⟨after, _ | _⟩
  · simp only [hregister] at h
    cases h
    rfl
  · simp only [hregister] at h
    cases hcheck : after.checkAll schemas with
    | error d =>
        rw [hcheck] at h
        cases h
        rfl
    | ok =>
        rw [hcheck] at h
        cases h

theorem failsOtherwise_of_ofText (h : Declaration.ofText text = .error e)
    (hother : e.isDocumented = false) : FailsOtherwise text e := by
  have hreading := Declaration.step_of_ofText h
  cases e with
  | lex d =>
      obtain ⟨ts, hscan, hviable⟩ := Declaration.ofText_eq_lex_iff.mp h
      cases d with
      | illegal c line => cases hother
      | longNumeral n =>
          obtain ⟨line, rest, hfront, hlong⟩ := Lexer.scan_eq_longNumeral_iff.mp hscan
          exact .longNumeral hfront hviable hlong
      | brokenEscape =>
          obtain ⟨line, rest, hfront, hbroken⟩ := Lexer.scan_eq_brokenEscape_iff.mp hscan
          exact .brokenEscape hfront hviable hbroken
  | cast d => cases hreading
  | grammar d => cases hother
  | schema d => cases hother

theorem failsOtherwise_of_resolve {front back : List Declaration} {d : Declaration}
    {given : List Descriptor} (hds : Declaration.ofText text = .ok (front ++ d :: back))
    (hfront : Declaration.Give front given) (h : d.resolve = .error e)
    (hother : e.isDocumented = false) : FailsOtherwise text e := by
  have hresolving := d.resolving_resolve e h
  cases e with
  | cast c =>
      obtain ⟨ts, line, htokens, hfile⟩ := Declaration.ofText_eq_ok_iff_front.mp hds
      obtain ⟨before, m, after, hmembers, hbefore, hm⟩ :=
        Declaration.fields_eq_error_iff.mp (Declaration.resolve_eq_cast_iff.mp h)
      obtain ⟨f, rfl, hf⟩ := Declaration.memberFields_eq_cast_iff.mp hm
      obtain ⟨k, hk, hescapes⟩ := FieldDeclaration.resolve_eq_cast_iff.mp hf
      -- integers of a text are converted from tokens, so that they are short
      have hshort : ∀ i, f.default = .integer i → digitCount i.natAbs ≤ longestNumeral := by
        intro i hi
        have hd : d ∈ front ++ d :: back := by simp
        have hmem : .field f ∈ d.members := by simp [hmembers]
        obtain ⟨t, ht, hlexeme⟩ := written_of_schemaFile hfile hd hmem hi
        exact Lexer.digitCount_of_front htokens ht hlexeme
      exact .default htokens hfile hfront hmembers hbefore hk
        ((Kind.castEscapes_literal_iff hshort).mp hescapes)
  | lex d => cases hresolving
  | grammar d => cases hother
  | schema d => cases hother

theorem extend_of_failsOtherwise (h : FailsOtherwise text e) :
    r.extend text = (r, .error e) ∧ e.isDocumented = false := by
  cases h with
  | @longNumeral ts line n rest hfront hviable hlong =>
      have hscan := Lexer.scan_eq_longNumeral_iff.mpr ⟨line, rest, hfront, hlong⟩
      exact ⟨extend_of_ofText_error (Declaration.ofText_eq_lex_iff.mpr ⟨ts, hscan, hviable⟩), rfl⟩
  | @brokenEscape ts line rest hfront hviable hbroken =>
      have hscan := Lexer.scan_eq_brokenEscape_iff.mpr ⟨line, rest, hfront, hbroken⟩
      exact ⟨extend_of_ofText_error (Declaration.ofText_eq_lex_iff.mpr ⟨ts, hscan, hviable⟩), rfl⟩
  | @default ts line front back d given before after f k c htokens hfile hfront hmembers hbefore hk
      hescapes =>
      have hf : f.resolve d.name = .error (.cast c) :=
        FieldDeclaration.resolve_eq_cast_iff.mpr ⟨k, hk, hescapes.castEscapes⟩
      have hm := Declaration.memberFields_eq_cast_iff.mpr ⟨f, rfl, hf⟩
      have hd : d.resolve = .error (.cast c) := by
        rw [Declaration.resolve_eq_cast_iff, Declaration.fields_eq_error_iff]
        exact ⟨before, .field f, after, hmembers, hbefore, hm⟩
      have hds := Declaration.ofText_eq_ok_iff_front.mpr ⟨ts, line, htokens, hfile⟩
      exact ⟨extend_of_resolveAll_error hds (Declaration.resolveAll_of_give hfront hd), rfl⟩

/-- Adding a text to a registry fails with an error that is neither one of syntax nor one of a
schema for three things in the text, and nothing else: an integer of too many digits, a broken
escape, and a default whose conversion fails. The registry then stays as it is. -/
theorem extend_fails_otherwise_iff (r : Registry) (text : String) (e : SchemaTextError) :
    ((r.extend text).2 = .error e ∧ e.isDocumented = false ↔ FailsOtherwise text e) ∧
      (FailsOtherwise text e → (r.extend text).1 = r) := by
  refine ⟨⟨?_, fun h => ?_⟩, fun h => ?_⟩
  · rintro ⟨h, hother⟩
    cases hds : Declaration.ofText text with
    | error d =>
        rw [extend_of_ofText_error hds] at h
        cases h
        exact failsOtherwise_of_ofText hds hother
    | ok ds =>
        rcases Declaration.resolveAll_cases ds with
          ⟨schemas, hschemas, -⟩ | ⟨front, d, back, given, c, rfl, hfront, hd, herror⟩
        · rw [isDocumented_of_extend hds hschemas h] at hother
          cases hother
        · rw [extend_of_resolveAll_error hds herror] at h
          cases h
          exact failsOtherwise_of_resolve hds hfront hd hother
  · obtain ⟨hextend, hother⟩ := @extend_of_failsOtherwise r _ _ h
    exact ⟨by rw [hextend], hother⟩
  · rw [(@extend_of_failsOtherwise r _ _ h).1]

/-- A relation whose name is a hexadecimal escape without digits. -/
theorem extend_fails_otherwise_escape :
    empty.extend "schema A as \"\\x\" { }" = (empty, .error (.lex .brokenEscape)) := by
  let tokens : List Token :=
    [⟨.keyword .schema, 1, 0⟩, ⟨.identifier "A", 1, 7⟩, ⟨.keyword .as, 1, 9⟩]
  have hscan : Token.scan "schema A as \"\\x\" { }" = (tokens, some .brokenEscape) := by
    decide +kernel
  have hviable : Viable tokens := viable_iff.mpr ⟨_, _, rfl⟩
  obtain ⟨line, rest, hfront, hbroken⟩ := Lexer.scan_eq_brokenEscape_iff.mp hscan
  have hfails : FailsOtherwise "schema A as \"\\x\" { }" (.lex .brokenEscape) :=
    .brokenEscape hfront hviable hbroken
  obtain ⟨hiff, hkept⟩ := extend_fails_otherwise_iff empty _ (.lex .brokenEscape)
  exact Prod.ext (hkept hfails) (hiff.mpr hfails).1

end Registry

end RecordMapper
