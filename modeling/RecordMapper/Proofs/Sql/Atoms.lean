import RecordMapper.Proofs.Sql.Binding

/-! # The atoms of a statement

A text of the statement language is read as quoted names, words, numbers and signs, character by
character and each as long as possible. The atoms of a statement are those of its pieces, where no
piece goes on with an atom that the one before has begun. -/

namespace RecordMapper

/-- An atom of the statement language: a name between quotes, a keyword or the name of a function, a
number, or a sign. -/
inductive Atom where
  | name (n : String)
  | word (w : String)
  | number (digits : String)
  | sign (s : String)
deriving DecidableEq, Repr

namespace Atom

/-! ## Reading -/

/-- The atom that is begun, with its characters so far. A quote ends a name unless another one
follows, and a sign may have more characters. -/
inductive Begun where
  | none
  | name (cs : List Char)
  | quote (cs : List Char)
  | word (cs : List Char)
  | number (cs : List Char)
  | sign (cs : List Char)
deriving DecidableEq

/-- Whether the character can stand in a word. -/
def isLetter (c : Char) : Bool := c.isAlphanum || c == '_'

/-- Whether signs of several characters are made of the character. -/
def isRelation (c : Char) : Bool := c == '<' || c == '>' || c == '='

/-- The signs of one character. -/
def signs : List Char := ['(', ')', ',', '.', '?', '*', '+', '-', '/']

namespace Begun

/-- The atoms that are complete when the text ends here; an open name never is. -/
def ended : Begun → Option (List Atom)
  | none => some []
  | name _ => Option.none
  | quote cs => some [.name (String.ofList cs)]
  | word cs => some [.word (String.ofList cs)]
  | number cs => some [.number (String.ofList cs)]
  | sign cs => some [.sign (String.ofList cs)]

/-- The atom with one more character, if the character belongs to it. -/
def extended : Begun → Char → Option Begun
  | none, _ => Option.none
  | name cs, c => some (if c = '"' then quote cs else name (cs ++ [c]))
  | quote cs, c => if c = '"' then some (name (cs ++ [c])) else Option.none
  | word cs, c => if isLetter c then some (word (cs ++ [c])) else Option.none
  | number cs, c => if c.isDigit then some (number (cs ++ [c])) else Option.none
  | sign cs, c => if isRelation c then some (sign (cs ++ [c])) else Option.none

/-- What a character begins, and the atom that it is by itself. -/
def first (c : Char) : Option (List Atom × Begun) :=
  if c = ' ' then some ([], none)
  else if c = '"' then some ([], name [])
  else if c.isDigit then some ([], number [c])
  else if isLetter c then some ([], word [c])
  else if isRelation c then some ([], sign [c])
  else if signs.contains c then some ([.sign (String.ofList [c])], none)
  else Option.none

/-- Reads one more character: it belongs to the atom that is begun, or that one ends before it. -/
def next (b : Begun) (c : Char) : Option (List Atom × Begun) :=
  match b.extended c with
  | some b' => some ([], b')
  | Option.none => do
    let atoms ← b.ended
    let (more, b') ← first c
    return (atoms ++ more, b')

/-- The atoms of a text behind one that is begun. -/
def read (b : Begun) : List Char → Option (List Atom)
  | [] => b.ended
  | c :: cs => do
    let (atoms, b') ← b.next c
    let rest ← read b' cs
    return atoms ++ rest

/-- The atoms that are complete after some characters, and the one that is begun then. -/
def run (b : Begun) : List Char → Option (List Atom × Begun)
  | [] => some ([], b)
  | c :: cs => do
    let (atoms, b') ← b.next c
    let (rest, b'') ← run b' cs
    return (atoms ++ rest, b'')

theorem read_append {b b' : Begun} {cs : List Char} {atoms : List Atom}
    (h : b.run cs = some (atoms, b')) (ds : List Char) :
    b.read (cs ++ ds) = (b'.read ds).map (atoms ++ ·) := by
  induction cs generalizing b atoms with
  | nil =>
      cases h
      simp
  | cons c cs ih =>
      simp only [run, Option.bind_eq_bind, Option.bind_eq_some_iff, Option.pure_def,
        Option.some.injEq, Prod.mk.injEq] at h
      obtain ⟨⟨as, b₁⟩, hnext, ⟨bs, b₂⟩, hrun, rfl, rfl⟩ := h
      have hread : b₁.read (cs ++ ds) = (b₂.read ds).map (bs ++ ·) := ih hrun
      simp only [List.cons_append, read, hnext, hread, Option.bind_eq_bind, Option.bind_some]
      cases b₂.read ds <;> simp

/-! ## Where atoms end -/

/-- The characters that no atom but an open name goes on with. -/
def breaks : List Char := [' ', '(', ')', ',', '.']

/-- The text is empty, or no atom but an open name goes on with its first character. -/
def Breaks (cs : List Char) : Prop := ∀ c ∈ cs.head?, c ∈ breaks

theorem breaks_nil : Breaks [] := nofun

theorem extended_eq_none {b : Begun} {atoms : List Atom} (hb : b.ended = some atoms) {c : Char}
    (hc : c ∈ breaks) : b.extended c = Option.none := by
  have hall : breaks.all (fun c => !isLetter c && !isRelation c && !c.isDigit && c != '"') := by
    decide
  obtain ⟨⟨⟨hletter, hrelation⟩, hdigit⟩, hquote⟩ := by simpa using List.all_eq_true.mp hall c hc
  cases b with
  | name cs => cases hb
  | none => rfl
  | quote cs => exact if_neg hquote
  | word cs => simp [extended, hletter]
  | number cs => simp [extended, hdigit]
  | sign cs => simp [extended, hrelation]

/-- In front of a break, the atom that is begun ends. -/
theorem read_of_breaks {b : Begun} {atoms : List Atom} (hb : b.ended = some atoms) {cs : List Char}
    (h : Breaks cs) : b.read cs = (none.read cs).map (atoms ++ ·) := by
  have hnone : none.ended = some [] := rfl
  cases cs with
  | nil => simp [read, hb, hnone]
  | cons c cs =>
      have hc : c ∈ breaks := h c rfl
      simp only [read, next, extended_eq_none hb hc, extended_eq_none hnone hc, hb, hnone]
      cases first c with
      | none => rfl
      | some x => cases hx : x.2.read cs <;> simp [hx]

/-- A quoted name is read up to the quote that may end it. -/
theorem run_doubled (front cs : List Char) :
    (name front).run (Dialect.doubled cs ++ ['"']) = some ([], quote (front ++ cs)) := by
  induction cs generalizing front with
  | nil => simp [Dialect.doubled, run, next, extended]
  | cons c cs ih =>
      by_cases hc : c = '"'
      · subst hc
        have hrest := ih (front ++ ['"'])
        simp [Dialect.doubled, run, next, extended, hrest]
      · have hrest := ih (front ++ [c])
        simp [Dialect.doubled, run, next, extended, hc, hrest]

theorem run_quote (n : String) :
    none.run (Dialect.quote n.toList) = some ([], quote n.toList) := by
  have hrun : (name []).run (Dialect.doubled n.toList ++ ['"']) = some ([], quote n.toList) :=
    run_doubled [] n.toList
  simp [Dialect.quote, run, next, extended, ended, first, hrun]

end Begun

/-- The atoms of a text. -/
def ofText (s : String) : Option (List Atom) := Begun.none.read s.toList

/-! ## Pieces -/

/-- What a word of a statement is read as; nothing is begun at its end. -/
def Spells (w : String) (atoms : List Atom) : Prop :=
  Begun.none.run w.toList = some (atoms, .none)

instance (w : String) (atoms : List Atom) : Decidable (Spells w atoms) :=
  inferInstanceAs (Decidable (_ = _))

/-- What pieces are read as in front of a break. -/
def Reads (ps : List Piece) (atoms : List Atom) : Prop :=
  ∀ bound rest, Begun.Breaks rest →
    Begun.none.read (Piece.render .sqlite bound ps ++ rest) =
      (Begun.none.read rest).map (atoms ++ ·)

/-- Whether a word begins with a break. -/
def startsApart (w : String) : Bool := w.toList.head?.any Begun.breaks.contains

/-- There are no pieces, or the first of them is a word that begins with a break. -/
def Apart : List Piece → Prop
  | [] => True
  | .word w :: _ => startsApart w = true
  | _ => False

variable {ps qs : List Piece} {as bs : List Atom}

/-- What a word that begins with a break is read as. -/
def SpellsApart (w : String) (atoms : List Atom) : Prop := Spells w atoms ∧ startsApart w = true

instance (w : String) (atoms : List Atom) : Decidable (SpellsApart w atoms) :=
  inferInstanceAs (Decidable (_ ∧ _))

theorem Apart.append (hp : Apart ps) (hq : Apart qs) : Apart (ps ++ qs) := by
  cases ps with
  | nil => exact hq
  | cons p ps => cases p <;> exact hp

namespace Reads

theorem nil : Reads [] [] := by
  intro bound rest _
  simp [Piece.render]

theorem word {w : String} (hw : Spells w as) (h : Reads ps bs) :
    Reads (.word w :: ps) (as ++ bs) := by
  intro bound rest hrest
  rw [Piece.render, List.append_assoc, Begun.read_append hw, h bound rest hrest]
  simp [Function.comp_def]

theorem singleWord {w : String} (hw : Spells w as) : Reads [.word w] as := by
  simpa using word hw nil

/-- A word that goes on until the next break. -/
theorem openWord {w v : String} (hw : Begun.none.run w.toList = some ([], .word v.toList)) :
    Reads [.word w] [.word v] := by
  intro bound rest hrest
  have hended : (Begun.word v.toList).ended = some [.word v] := by
    rw [Begun.ended, String.ofList_toList]
  rw [Piece.render, Piece.render, List.append_nil, Begun.read_append hw,
    Begun.read_of_breaks hended hrest]
  simp [Function.comp_def]

theorem name (n : String) : Reads [.name n] [.name n] := by
  intro bound rest hrest
  have hended : (Begun.quote n.toList).ended = some [.name n] := by
    rw [Begun.ended, String.ofList_toList]
  rw [Piece.render, Piece.render, List.append_nil, Begun.read_append (Begun.run_quote n),
    Begun.read_of_breaks hended hrest]
  simp [Function.comp_def]

theorem slot (p : Parameter) : Reads [.slot p] [.sign "?"] := by
  intro bound rest _
  have hmark : Begun.none.run ['?'] = some ([.sign "?"], .none) := by decide
  rw [Piece.render, Piece.render, List.append_nil]
  exact Begun.read_append hmark rest

theorem unplaced (p : Parameter) (h : Reads ps as) : Reads (.unplaced p :: ps) as :=
  fun bound rest hrest => h (bound + 1) rest hrest

/-- Of pieces without places, nothing is read. -/
theorem withoutPlaces (qs : List Piece) (h : Reads ps as) :
    Reads (Piece.withoutPlaces qs ++ ps) as := by
  induction qs with
  | nil => exact h
  | cons q qs ih =>
      cases q with
      | slot p => exact ih.unplaced p
      | unplaced p => exact ih.unplaced p
      | _ => exact ih

end Reads

theorem Apart.breaks (h : Apart ps) (bound : Nat) {rest : List Char} (hrest : Begun.Breaks rest) :
    Begun.Breaks (Piece.render .sqlite bound ps ++ rest) := by
  cases ps with
  | nil => exact hrest
  | cons p ps =>
      cases p with
      | word w =>
          obtain ⟨c, hc, hbreak⟩ := (Option.any_eq_true _ _).mp h
          obtain ⟨cs, hw⟩ := List.head?_eq_some_iff.mp hc
          rw [Piece.render, hw]
          rintro d ⟨⟩
          simpa using hbreak
      | _ => exact h.elim

/-- What pieces are read as behind other pieces. -/
structure Follows (ps : List Piece) (as : List Atom) : Prop where
  reads : Reads ps as
  apart : Apart ps

/-- The second pieces are read behind the first ones. -/
theorem Reads.append (hp : Reads ps as) (hq : Follows qs bs) : Reads (ps ++ qs) (as ++ bs) := by
  intro bound rest hrest
  rw [Piece.render_append, List.append_assoc, hp bound _ (hq.apart.breaks _ hrest),
    hq.reads _ rest hrest]
  simp [Function.comp_def]

namespace Follows

theorem nil : Follows [] [] := ⟨.nil, trivial⟩

theorem word {w : String} (hw : SpellsApart w as) (h : Reads ps bs) :
    Follows (.word w :: ps) (as ++ bs) :=
  ⟨.word hw.1 h, hw.2⟩

theorem append (hp : Follows ps as) (hq : Follows qs bs) : Follows (ps ++ qs) (as ++ bs) :=
  ⟨hp.reads.append hq, hp.apart.append hq.apart⟩

theorem flatten {pss : List (List Piece)} {ass : List (List Atom)}
    (h : List.Forall₂ Follows pss ass) : Follows pss.flatten ass.flatten := by
  induction h with
  | nil => exact .nil
  | cons hps _ ih => exact hps.append ih

end Follows

namespace Reads

/-- Pieces with a word before and a word after them. -/
theorem between {before after : String} {cs : List Atom} (hbefore : Spells before as)
    (h : Reads ps bs) (hafter : SpellsApart after cs) :
    Reads (.word before :: ps ++ [.word after]) (as ++ (bs ++ cs)) :=
  .word hbefore (h.append ⟨.singleWord hafter.1, hafter.2⟩)

/-- Pieces with a word between them. -/
theorem joined {w : String} {cs : List Atom} (hp : Reads ps as) (hw : SpellsApart w bs)
    (hq : Reads qs cs) : Reads (ps ++ .word w :: qs) (as ++ (bs ++ cs)) :=
  hp.append (.word hw hq)

/-- The text of pieces is read as their atoms. -/
theorem ofText (h : Reads ps as) :
    ofText (String.ofList (Piece.render .sqlite 0 ps)) = some as := by
  have hread := h 0 [] Begun.breaks_nil
  simpa [Atom.ofText, Begun.read, Begun.ended] using hread

end Reads

end Atom

end RecordMapper
