import RecordMapper.Proofs.Schema.Acceptance

/-! # What does not depend on lines

The lines and places of tokens are read for messages only. Without them the tokens of a text are
read to the same declarations, which give the same schemas or are refused for the same reason. -/

namespace RecordMapper

/-! ## Without lines and places -/

/-- A token without its line and place. -/
def Token.unplaced (t : Token) : Token := { t with line := 0, position := 0 }

/-- A declared field without its line. -/
def FieldDeclaration.unplaced (d : FieldDeclaration) : FieldDeclaration := { d with line := 0 }

namespace Member

/-- A member without its line. -/
def unplaced : Member → Member
  | .field d => .field d.unplaced
  | .relationship d => .relationship d
  | .timestamps => .timestamps

end Member

/-- A declaration without the lines of its members. -/
def Declaration.unplaced (d : Declaration) : Declaration :=
  { d with members := d.members.map Member.unplaced }

/-- An error of reading without its line. -/
def LexError.unplaced : LexError → LexError
  | .illegal c _ => .illegal c 0
  | e => e

/-- An error of the grammar without the place of its token. -/
def GrammarError.unplaced : GrammarError → GrammarError
  | .unexpected t => .unexpected t.unplaced
  | .ended => .ended

/-- An error of a schema without its line. -/
def SchemaError.unplaced : SchemaError → SchemaError
  | .unknownKind schema kind field _ => .unknownKind schema kind field 0
  | e => e

/-- An error of a schema text without its line and place. -/
def SchemaTextError.unplaced : SchemaTextError → SchemaTextError
  | .lex e => .lex e.unplaced
  | .grammar e => .grammar e.unplaced
  | .cast e => .cast e
  | .schema e => .schema e.unplaced

namespace Grammar

/-- A place within a schema without the lines of what was read. -/
def Place.unplaced : Place → Place
  | .fieldColon name _ => .fieldColon name 0
  | .fieldKind name _ => .fieldKind name 0
  | .modifiers d => .modifiers d.unplaced
  | .default d => .default d.unplaced
  | place => place

/-- Where the members of a schema stand, without their lines. -/
def Next.unplaced : Next → Next
  | .at members place => .at (members.map Member.unplaced) place.unplaced
  | .closed members => .closed (members.map Member.unplaced)

/-- A place in a schema text without the lines of what was read. -/
def State.unplaced : State → State
  | .inside schema table members place =>
    .inside schema table (members.map Member.unplaced) place.unplaced
  | s => s

/-! ## Reading -/

theorem afterMember_unplaced (members : List Member) (lexeme : Lexeme) :
    afterMember (members.map Member.unplaced) lexeme =
      (afterMember members lexeme).map Next.unplaced := by
  unfold afterMember
  split <;> rfl

theorem memberStart_unplaced (members : List Member) (line : Nat) (lexeme : Lexeme) :
    memberStart (members.map Member.unplaced) 0 lexeme =
      (memberStart members line lexeme).map Next.unplaced := by
  unfold memberStart
  split
  · rfl
  · simp [Next.unplaced, Member.unplaced, Place.unplaced]
  · rfl
  · simp [Function.comp_def, Next.unplaced, Place.unplaced]
  · rfl

/-- What a token does within a schema does not depend on its line. -/
theorem step_unplaced (members : List Member) (place : Place) (line : Nat) (lexeme : Lexeme) :
    step (members.map Member.unplaced) place.unplaced 0 lexeme =
      (step members place line lexeme).map Next.unplaced := by
  have hlast : ∀ m : Member, members.map Member.unplaced ++ [m.unplaced] =
      (members ++ [m]).map Member.unplaced := fun m => by simp
  cases place with
  | member => exact memberStart_unplaced members line lexeme
  | afterMember => exact afterMember_unplaced members lexeme
  | modifiers d =>
      simp only [Place.unplaced, step]
      split
      · rfl
      · rfl
      · rfl
      · rw [← afterMember_unplaced, ← hlast]
        rfl
  | default d =>
      simp only [Place.unplaced, step, Option.map_map]
      congr 1
      funext v
      simp only [Function.comp_apply, Next.unplaced, Place.unplaced, ← hlast]
      rfl
  | relationshipEnd kind name related =>
      simp only [Place.unplaced, step]
      split
      · rfl
      · rw [← afterMember_unplaced, ← hlast]
        rfl
  | foreignKey kind name related =>
      simp only [Place.unplaced, step]
      split
      · simp only [Option.map_some, Next.unplaced, ← hlast]
        rfl
      · rfl
  | _ =>
      simp only [Place.unplaced, step]
      split <;> rfl

/-- What a token does does not depend on its line and place. -/
theorem advance_unplaced (s : State) (t : Token) :
    advance s.unplaced t.unplaced =
      (advance s t).map fun x => (x.1.unplaced, x.2.map Declaration.unplaced) := by
  cases s with
  | inside name relation members place =>
      have hstep := step_unplaced members place t.line t.lexeme
      simp only [State.unplaced, advance, Token.unplaced, hstep, Option.map_map]
      congr 1
      funext next
      cases next <;> rfl
  | _ =>
      simp only [State.unplaced, advance, Token.unplaced]
      split <;> rfl

theorem read_unplaced (s : State) (ts : List Token) :
    read s.unplaced (ts.map Token.unplaced) =
      ((read s ts).map (List.map Declaration.unplaced)).mapError GrammarError.unplaced := by
  induction ts generalizing s with
  | nil =>
      cases s with
      | outside => rfl
      | _ => rfl
  | cons t ts ih =>
      rw [List.map_cons, read, read, advance_unplaced]
      cases advance s t with
      | none => rfl
      | some x =>
          obtain ⟨s', d⟩ := x
          cases d with
          | none => exact ih s'
          | some d =>
              simp only [Option.map_some, ih s']
              cases read s' ts <;> rfl

end Grammar

/-! ## Resolving -/

/-- Two errors of a schema text that differ in lines and places only. -/
def SchemaTextError.Alike (e e' : SchemaTextError) : Prop := e.unplaced = e'.unplaced

open Outcome SchemaTextError

theorem FieldDeclaration.resolve_unplaced (schema : String) (d : FieldDeclaration) :
    Agree Alike Eq (d.unplaced.resolve schema) (d.resolve schema) := by
  unfold resolve
  simp only [unplaced]
  split
  · exact .error rfl
  · split
    · exact .ok rfl
    · exact .error rfl
    · exact .error rfl

namespace Declaration

variable {schema key : String}

theorem memberFields_unplaced (m : Member) :
    Agree Alike Eq (memberFields schema m.unplaced) (memberFields schema m) := by
  cases m with
  | field d =>
      refine (d.resolve_unplaced schema).map ?_
      rintro f _ rfl
      rfl
  | relationship d => exact .ok rfl
  | timestamps => exact .ok rfl

theorem fields_unplaced (ms : List Member) :
    Agree Alike Eq (fields schema (ms.map Member.unplaced)) (fields schema ms) := by
  induction ms with
  | nil => exact .ok rfl
  | cons m ms ih =>
      refine (memberFields_unplaced m).bind ?_
      rintro front _ rfl
      refine ih.bind ?_
      rintro rest _ rfl
      exact .ok rfl

theorem keyName_unplaced (ms : List Member) : keyName (ms.map Member.unplaced) = keyName ms := by
  unfold keyName
  rw [List.findSome?_map]
  congr 2
  funext m
  cases m <;> rfl

theorem relationships_unplaced (ms : List Member) :
    relationships schema key (ms.map Member.unplaced) = relationships schema key ms := by
  unfold relationships
  rw [List.filterMap_map]
  congr 1
  funext m
  cases m <;> rfl

/-- A declaration gives its schema whatever the lines of its members. -/
theorem resolve_unplaced (d : Declaration) : Agree Alike Eq d.unplaced.resolve d.resolve := by
  refine (fields_unplaced d.members).bind ?_
  rintro fs _ rfl
  simp only [unplaced, keyName_unplaced, relationships_unplaced]
  exact .refl (fun _ => rfl) fun _ _ => rfl

theorem resolveAll_unplaced (ds : List Declaration) :
    Agree Alike Eq (resolveAll (ds.map unplaced)) (resolveAll ds) := by
  induction ds with
  | nil => exact .ok rfl
  | cons d ds ih =>
      refine (resolve_unplaced d).bind ?_
      rintro s _ rfl
      refine ih.bind ?_
      rintro rest _ rfl
      exact .ok rfl

end Declaration

/-! ## Texts -/

theorem Token.map_unplaced {ts us : List Token} (h : us.map Token.lexeme = ts.map Token.lexeme) :
    us.map Token.unplaced = ts.map Token.unplaced := by
  have hlexemes : ∀ ts : List Token,
      ts.map Token.unplaced = (ts.map Token.lexeme).map fun l => ⟨l, 0, 0⟩ := by
    intro ts
    rw [List.map_map]
    rfl
  rw [hlexemes, hlexemes, h]

variable {text text' : String} {ts ts' : List Token}

/-- Two texts of the same lexemes have the same declarations, but for their lines. -/
theorem Declaration.ofText_unplaced (h : Token.ofText text = .ok ts)
    (h' : Token.ofText text' = .ok ts') (hsame : ts'.map Token.lexeme = ts.map Token.lexeme) :
    Agree Alike (fun ds ds' => ds.map unplaced = ds'.map unplaced) (ofText text') (ofText text) := by
  have hread := Grammar.read_unplaced .outside ts
  rw [← Token.map_unplaced hsame, Grammar.read_unplaced .outside ts'] at hread
  rw [ofText_eq_read h, ofText_eq_read h']
  generalize Grammar.read .outside ts' = x, Grammar.read .outside ts = y at hread ⊢
  cases x with
  | error e =>
      cases y with
      | error e' => exact .error (congrArg grammar (Except.error.inj hread))
      | ok ds => cases hread
  | ok ds =>
      cases y with
      | error e => cases hread
      | ok ds' => exact .ok (Except.ok.inj hread)

namespace Registry

/-- A registry behind a text and whether the text was taken, without the line and the place in its
error. -/
def unplacedEnd (x : Registry × Except SchemaTextError Unit) :
    Registry × Except SchemaTextError Unit :=
  (x.1, x.2.mapError SchemaTextError.unplaced)

theorem declare_unplaced (r : Registry) (ds : List Declaration) :
    unplacedEnd (r.declare (ds.map Declaration.unplaced)) = unplacedEnd (r.declare ds) := by
  have hall := Declaration.resolveAll_unplaced ds
  unfold declare
  generalize Declaration.resolveAll (ds.map Declaration.unplaced) = x,
    Declaration.resolveAll ds = y at hall ⊢
  cases hall with
  | error h => exact congrArg (fun e => (r, Except.error e)) h
  | ok h => rw [h]

/-- Two texts of the same lexemes do the same to a registry, but for the line and the place in an
error. -/
theorem extend_unplaced (h : Token.ofText text = .ok ts) (h' : Token.ofText text' = .ok ts')
    (hsame : ts'.map Token.lexeme = ts.map Token.lexeme) (r : Registry) :
    unplacedEnd (r.extend text') = unplacedEnd (r.extend text) := by
  have hdeclarations := Declaration.ofText_unplaced h h' hsame
  generalize hx : Declaration.ofText text' = x, hy : Declaration.ofText text = y at hdeclarations
  cases hdeclarations with
  | error h =>
      simp only [extend, hx, hy]
      exact congrArg (fun e => (r, Except.error e)) h
  | @ok ds ds' h =>
      rw [extend_of_ofText hx, extend_of_ofText hy]
      calc unplacedEnd (r.declare ds)
          = unplacedEnd (r.declare (ds.map Declaration.unplaced)) := (declare_unplaced r ds).symm
        _ = unplacedEnd (r.declare (ds'.map Declaration.unplaced)) := by rw [h]
        _ = unplacedEnd (r.declare ds') := declare_unplaced r ds'

end Registry

end RecordMapper
