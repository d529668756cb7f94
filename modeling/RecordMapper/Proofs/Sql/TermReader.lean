import RecordMapper.Proofs.Query.Blank
import RecordMapper.Proofs.Sql.Spelling

/-! # Reading terms back

A reader for the text of a term. It knows how many values are bound before the term, so it knows
which placeholder to expect, and in front of each word it has to tell apart only a few of them. -/

namespace RecordMapper

/-! ## Words -/

namespace Text

theorem dropPrefix?_append (w rest : List Char) : (w ++ rest).dropPrefix? w = some rest :=
  List.dropPrefix?_append_of_beq rest (by simp)

theorem dropPrefix?_eq_none {w cs : List Char} (h : ¬ w <+: cs) : cs.dropPrefix? w = none := by
  rw [Option.eq_none_iff_forall_ne_some]
  intro rest hrest
  obtain ⟨w', rfl, hw⟩ := List.dropPrefix?_eq_some_iff.mp hrest
  obtain rfl : w' = w := by simpa using hw
  exact h (List.prefix_append _ _)

/-- A text begins with a word only if it begins with the first character of the word. -/
theorem not_prefix_of_head? {w cs : List Char} (hw : w ≠ []) (h : w.head? ≠ cs.head?) :
    ¬ w <+: cs := by
  rintro ⟨rest, rfl⟩
  cases w with
  | nil => exact hw rfl
  | cons c w => exact h rfl

section

variable {α : Type} {table : List (String × α)}

/-- The entry of a table with whose word a text begins, and what stands behind the word. -/
def choose (table : List (String × α)) (cs : List Char) : Option (α × List Char) :=
  table.findSome? fun x => (cs.dropPrefix? x.1.toList).map fun rest => (x.2, rest)

/-- No word of the table begins another one. -/
def PrefixFree (table : List (String × α)) : Prop :=
  table.Pairwise fun x y => ¬ x.1.toList <+: y.1.toList ∧ ¬ y.1.toList <+: x.1.toList

instance (table : List (String × α)) : Decidable (PrefixFree table) :=
  inferInstanceAs (Decidable (List.Pairwise _ _))

theorem choose_append (hfree : PrefixFree table) {w : String} {a : α} (hmem : (w, a) ∈ table)
    (rest : List Char) : choose table (w.toList ++ rest) = some (a, rest) := by
  induction table with
  | nil => cases hmem
  | cons x table ih =>
      obtain ⟨hx, htable⟩ := List.pairwise_cons.mp hfree
      rcases List.mem_cons.mp hmem with rfl | hmem
      · simp [choose, dropPrefix?_append]
      · -- two words that begin one text are comparable
        have hno : ¬ x.1.toList <+: w.toList ++ rest := fun hpre =>
          (List.prefix_or_prefix_of_prefix hpre (List.prefix_append _ _)).elim
            (hx _ hmem).1 (hx _ hmem).2
        rw [choose, List.findSome?_cons, dropPrefix?_eq_none hno]
        exact ih htable hmem

/-- No entry is chosen when every word begins with another character than the text. -/
theorem choose_eq_none {cs : List Char}
    (h : ∀ x ∈ table, x.1.toList ≠ [] ∧ x.1.toList.head? ≠ cs.head?) : choose table cs = none := by
  rw [choose, List.findSome?_eq_none_iff]
  intro x hx
  obtain ⟨hne, hhead⟩ := h x hx
  rw [dropPrefix?_eq_none (not_prefix_of_head? hne hhead), Option.map_none]

end

end Text

namespace Term

open Text Piece

/-! ## The reader -/

/-- What reads a term behind some number of bound values gives the term, the number of values that
are bound at its end, and what stands behind it. -/
abbrev Reader : Type := Nat → List Char → Option (Term × Nat × List Char)

/-- A name up to the quote that closes it. -/
def readName : List Char → Option (List Char × List Char)
  | [] => none
  | [c] => if c = '"' then some ([], []) else none
  | c :: d :: cs =>
    if c = '"' then
      if d = '"' then (readName cs).map fun x => ('"' :: x.1, x.2) else some ([], d :: cs)
    else (readName (d :: cs)).map fun x => (c :: x.1, x.2)

/-- A field behind its first quote. -/
def readField (cs : List Char) : Option (Term × List Char) := do
  let (b, cs) ← readName cs
  let cs ← cs.dropPrefix? ['.', '"']
  let (n, cs) ← readName cs
  return (.field (String.ofList b) (String.ofList n), cs)

/-- Terms with a word between them. -/
def readList (read : Reader) (separator : String) : Nat → Nat → List Char →
    Option (List Term × Nat × List Char)
  | 0, _, _ => none
  | fuel + 1, bound, cs => do
    let (t, bound, cs) ← read bound cs
    match cs.dropPrefix? separator.toList with
    | none => return ([t], bound, cs)
    | some cs => do
      let (ts, bound, cs) ← readList read separator fuel bound cs
      return (t :: ts, bound, cs)

/-- A term and a word behind it. -/
def readUpTo (read : Reader) (word : String) : Reader := fun bound cs => do
  let (t, bound, cs) ← read bound cs
  let cs ← cs.dropPrefix? word.toList
  return (t, bound, cs)

/-- Terms with a word between them and another one behind them. -/
def readListUpTo (read : Reader) (separator word : String) (fuel bound : Nat) (cs : List Char) :
    Option (List Term × Nat × List Char) := do
  let (ts, bound, cs) ← readList read separator fuel bound cs
  let cs ← cs.dropPrefix? word.toList
  return (ts, bound, cs)

/-- What the first operand between parentheses is an operand of. -/
inductive Tail where
  | binary (op : Operator)
  | connected (op : Connective) (separator : String)
  | isNull (negated : Bool)
  | inList (negated : Bool)

/-- The words behind the first operand that all dialects have. -/
def commonTails : List (String × Tail) :=
  [(" = ", .binary .eq), (" <> ", .binary .ne), (" < ", .binary .lt), (" <= ", .binary .le),
    (" > ", .binary .gt), (" >= ", .binary .ge), (" LIKE ", .binary .like), (" + ", .binary .add),
    (" - ", .binary .sub), (" * ", .binary .mul), (" / ", .binary .div),
    (" AND ", .connected .and " AND "), (" OR ", .connected .or " OR "),
    (" IS NOT NULL)", .isNull true), (" IS NULL)", .isNull false),
    (" NOT IN (", .inList true), (" IN (", .inList false)]

/-- The words behind the first operand. -/
def tails (d : Dialect) : List (String × Tail) :=
  if d.hasIlike then (" ILIKE ", .binary .ilike) :: commonTails else commonTails

theorem mem_tails {d : Dialect} {x : String × Tail} (h : x ∈ commonTails) : x ∈ tails d := by
  unfold tails
  split
  · exact List.mem_cons_of_mem _ h
  · exact h

/-- What stands behind the first operand and the word after it. -/
def readTail (read : Reader) (fuel : Nat) (t : Term) (bound : Nat) (cs : List Char) :
    Tail → Option (Term × Nat × List Char)
  | .binary op => (readUpTo read ")" bound cs).map fun x => (.binary op t x.1, x.2)
  | .connected op separator =>
    (readListUpTo read separator ")" fuel bound cs).map fun x => (.connected op (t :: x.1), x.2)
  | .isNull negated => some (.isNull t negated, bound, cs)
  | .inList negated =>
    (readListUpTo read ", " "))" fuel bound cs).map fun x => (.inList t x.1 negated, x.2)

/-- A word behind an opening parenthesis. -/
inductive Mark where
  | not
  | lower

/-- The words that no term begins with, behind an opening parenthesis. -/
def marks (d : Dialect) : List (String × Mark) :=
  if d.hasIlike then [("NOT ", .not)] else [("NOT ", .not), ("LOWER(", .lower)]

/-- What stands behind an opening parenthesis. -/
def readOpened (d : Dialect) (read : Reader) (fuel bound : Nat) (cs : List Char) :
    Option (Term × Nat × List Char) :=
  match choose (marks d) cs with
  | some (.not, cs) => (readUpTo read ")" bound cs).map fun x => (.not x.1, x.2)
  | some (.lower, cs) => do
    let (l, bound, cs) ← readUpTo read ") LIKE LOWER(" bound cs
    let (r, bound, cs) ← readUpTo read "))" bound cs
    return (.binary .ilike l r, bound, cs)
  | none => do
    let (t, bound, cs) ← read bound cs
    let (tail, cs) ← choose (tails d) cs
    readTail read fuel t bound cs tail

/-- A word behind a function of groups and its parenthesis. -/
inductive ArgumentMark where
  | rows
  | distinct

/-- The words that no term begins with, behind a function of groups. -/
def argumentMarks : List (String × ArgumentMark) := [("*)", .rows), ("DISTINCT ", .distinct)]

/-- What stands behind a function of groups and its parenthesis. -/
def readArgument (read : Reader) (f : AggregateFunction) (bound : Nat) (cs : List Char) :
    Option (Term × Nat × List Char) :=
  match choose argumentMarks cs with
  | some (.rows, cs) => some (.aggregate f none false, bound, cs)
  | some (.distinct, cs) =>
    (readUpTo read ")" bound cs).map fun x => (.aggregate f (some x.1) true, x.2)
  | none => (readUpTo read ")" bound cs).map fun x => (.aggregate f (some x.1) false, x.2)

/-- The beginning of a term that is no literal. -/
inductive Head where
  | name
  | opened
  | function (f : AggregateFunction)

/-- The words that terms begin with. -/
def heads : List (String × Head) :=
  [("\"", .name), ("(", .opened), ("COUNT(", .function .count), ("SUM(", .function .sum),
    ("AVG(", .function .avg), ("MIN(", .function .min), ("MAX(", .function .max)]

/-- What stands behind the beginning of a term. -/
def readHead (d : Dialect) (read : Reader) (fuel bound : Nat) (cs : List Char) :
    Head → Option (Term × Nat × List Char)
  | .name => (readField cs).map fun x => (x.1, bound, x.2)
  | .opened => readOpened d read fuel bound cs
  | .function f => readArgument read f bound cs

/-- Reads a term with no value in the place of each literal. -/
def readTerm (d : Dialect) : Nat → Reader
  | 0 => fun _ _ => none
  | fuel + 1 => fun bound cs =>
    match cs.dropPrefix? (d.placeholder (bound + 1 : Nat)) with
    | some cs => some (.literal .null, bound + 1, cs)
    | none => do
      let (head, cs) ← choose heads cs
      readHead d (readTerm d fuel) fuel bound cs head

/-! ## The words are told apart -/

theorem prefixFree_tails (d : Dialect) : PrefixFree (tails d) := by
  unfold tails
  cases d.hasIlike <;> decide

theorem prefixFree_marks (d : Dialect) : PrefixFree (marks d) := by
  unfold marks
  cases d.hasIlike <;> decide

theorem prefixFree_argumentMarks : PrefixFree argumentMarks := by decide

theorem prefixFree_heads : PrefixFree heads := by decide

/-- The characters that the text of a term can begin with. -/
def starters (d : Dialect) : List Char := [d.mark, '"', '(', 'C', 'S', 'A', 'M']

/-- The text begins like a term. -/
def Starts (d : Dialect) (cs : List Char) : Prop := ∃ c rest, cs = c :: rest ∧ c ∈ starters d

/-- No word of a table is chosen in front of a term if none of them begins like one. -/
theorem Starts.choose_eq_none {α : Type} {table : List (String × α)} {d : Dialect}
    (htable : ∀ x ∈ table, x.1.toList ≠ [] ∧ x.1.toList.head? ∉ (starters d).map some)
    {cs : List Char} (h : Starts d cs) : choose table cs = none := by
  obtain ⟨c, rest, rfl, hc⟩ := h
  refine Text.choose_eq_none fun x hx => ?_
  obtain ⟨hne, hhead⟩ := htable x hx
  refine ⟨hne, fun heq => hhead ?_⟩
  rw [heq]
  exact List.mem_map_of_mem hc

theorem Starts.choose_marks {d : Dialect} {cs : List Char} (h : Starts d cs) :
    choose (marks d) cs = none := by
  apply h.choose_eq_none
  unfold marks starters
  rcases d.mark_eq with hmark | hmark <;> rw [hmark] <;> cases d.hasIlike <;> decide

theorem Starts.choose_argumentMarks {d : Dialect} {cs : List Char} (h : Starts d cs) :
    choose argumentMarks cs = none := by
  apply h.choose_eq_none
  unfold starters
  rcases d.mark_eq with hmark | hmark <;> rw [hmark] <;> decide

/-- A placeholder begins with its mark. -/
theorem dropPrefix?_placeholder {d : Dialect} {n : Nat} {cs : List Char}
    (h : cs.head? ≠ some d.mark) : cs.dropPrefix? (d.placeholder n) = none := by
  obtain ⟨digits, heq, -, -⟩ := d.placeholder_digits n
  apply dropPrefix?_eq_none
  rw [heq]
  exact not_prefix_of_head? (by simp) (by simpa using h.symm)

end Term

end RecordMapper
