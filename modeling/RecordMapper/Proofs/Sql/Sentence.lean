import RecordMapper.Proofs.Sql.Atoms

/-! # Sentences that read rows

The part of the grammar of SQLite that statements for reading rows belong to, as rules on rows of
atoms. None of the rules invokes the compiler. A number of rows that are passed over can only stand
behind a limit, and at least one column is put out. -/

namespace RecordMapper.SelectGrammar

open Atom (name word number sign)

/-! ## Expressions -/

/-- Rows of atoms with an atom between them. -/
def separated (separator : Atom) : List (List Atom) → List Atom
  | [] => []
  | [as] => as
  | as :: rest => as ++ separator :: separated separator rest

/-- The operators between two expressions. -/
def operators : List Atom :=
  [sign "=", sign "<>", sign "<", sign "<=", sign ">", sign ">=", sign "+", sign "-", sign "*",
    sign "/", word "LIKE"]

/-- The functions of one expression. -/
def functions : List String := ["COUNT", "SUM", "AVG", "MIN", "MAX", "LOWER"]

/-- Atoms between parentheses. -/
def enclosed (as : List Atom) : List Atom := sign "(" :: as ++ [sign ")"]

/-- An expression. What is made of others stands between parentheses. -/
inductive Expression : List Atom → Prop where
  | column (b n : String) : Expression [name b, sign ".", name n]
  | placeholder : Expression [sign "?"]
  | constant {n : String} : n ∈ ["0", "1"] → Expression (enclosed [number "1", sign "=", number n])
  | binary {op : Atom} {ls rs : List Atom} : op ∈ operators → Expression ls → Expression rs →
      Expression (enclosed (ls ++ op :: rs))
  | connected {w : String} {ass : List (List Atom)} : w ∈ ["AND", "OR"] → ass ≠ [] →
      (∀ as ∈ ass, Expression as) → Expression (enclosed (separated (word w) ass))
  | not {as : List Atom} : Expression as → Expression (enclosed (word "NOT" :: as))
  | isNull {as : List Atom} : Expression as →
      Expression (enclosed (as ++ [word "IS", word "NULL"]))
  | isNotNull {as : List Atom} : Expression as →
      Expression (enclosed (as ++ [word "IS", word "NOT", word "NULL"]))
  | inList {as : List Atom} {bss : List (List Atom)} : Expression as → bss ≠ [] →
      (∀ bs ∈ bss, Expression bs) →
      Expression (enclosed (as ++ word "IN" :: enclosed (separated (sign ",") bss)))
  | notInList {as : List Atom} {bss : List (List Atom)} : Expression as → bss ≠ [] →
      (∀ bs ∈ bss, Expression bs) →
      Expression (enclosed (as ++ word "NOT" :: word "IN" :: enclosed (separated (sign ",") bss)))
  | rows : Expression (word "COUNT" :: enclosed [sign "*"])
  | call {f : String} {as : List Atom} : f ∈ functions → Expression as →
      Expression (word f :: enclosed as)
  | callDistinct {f : String} {as : List Atom} : f ∈ functions → Expression as →
      Expression (word f :: enclosed (word "DISTINCT" :: as))

/-! ## Clauses -/

/-- A column of the answer. -/
inductive ResultColumn : List Atom → Prop where
  | expression {as : List Atom} : Expression as → ResultColumn as
  | named {as : List Atom} (n : String) : Expression as → ResultColumn (as ++ [word "AS", name n])
  | all (b : String) : ResultColumn [name b, sign ".", sign "*"]

/-- An expression to sort by. -/
inductive OrderingTerm : List Atom → Prop where
  | term {as : List Atom} {w : String} : w ∈ ["ASC", "DESC"] → Expression as →
      OrderingTerm (as ++ [word w])

/-- At least one row of atoms, with commas between them. -/
inductive Listed (item : List Atom → Prop) : List Atom → Prop where
  | items {ass : List (List Atom)} : ass ≠ [] → (∀ as ∈ ass, item as) →
      Listed item (separated (sign ",") ass)

/-- A table under a name. -/
def aliased (table binding : String) : List Atom := [name table, word "AS", name binding]

/-- A join. -/
inductive Join : List Atom → Prop where
  | on {w : String} {as : List Atom} (table binding : String) : w ∈ ["INNER", "LEFT"] →
      Expression as →
      Join (word w :: word "JOIN" :: aliased table binding ++ word "ON" :: as)

/-- A clause that may be missing. -/
inductive Clause (keyword : List Atom) (body : List Atom → Prop) : List Atom → Prop where
  | missing : Clause keyword body []
  | present {as : List Atom} : body as → Clause keyword body (keyword ++ as)

/-- What stands behind the columns of a selection, up to its order; the clauses have the order of
the language. -/
inductive Remainder : List Atom → Prop where
  | clauses {conditions groups having' order : List Atom} {joins : List (List Atom)}
      (table binding : String) : (∀ join ∈ joins, Join join) →
      Clause [word "WHERE"] Expression conditions →
      Clause [word "GROUP", word "BY"] (Listed Expression) groups →
      Clause [word "HAVING"] Expression having' →
      Clause [word "ORDER", word "BY"] (Listed OrderingTerm) order →
      Remainder (word "FROM" :: aliased table binding ++ joins.flatten ++ conditions ++ groups ++
        having' ++ order)

/-- What a selection begins with. -/
def openings : List (List Atom) := [[word "SELECT"], [word "SELECT", word "DISTINCT"]]

/-- A selection up to its order. -/
inductive Body : List Atom → Prop where
  | select {opening columns rest : List Atom} : opening ∈ openings → Listed ResultColumn columns →
      Remainder rest → Body (opening ++ columns ++ rest)

/-- A sentence that reads rows. -/
inductive Sentence : List Atom → Prop where
  | all {as : List Atom} : Body as → Sentence as
  | limit {as ns : List Atom} : Body as → Expression ns → Sentence (as ++ word "LIMIT" :: ns)
  | offset {as ns ms : List Atom} : Body as → Expression ns → Expression ms →
      Sentence (as ++ word "LIMIT" :: ns ++ word "OFFSET" :: ms)

/-- A text that is read as a sentence. -/
def IsSentence (text : String) : Prop := ∃ as, Atom.ofText text = some as ∧ Sentence as

/-! ## Where limits stand -/

/-- The words that a limit and a number of rows that are passed over begin with. -/
def limits : List Atom := [word "LIMIT", word "OFFSET"]

/-- The atoms hold none of the words of limits. -/
def Unlimited (as : List Atom) : Prop := ∀ a ∈ as, a ∉ limits

instance (as : List Atom) : Decidable (Unlimited as) := List.decidableBAll _ _

variable {as bs : List Atom}

theorem Unlimited.append (ha : Unlimited as) (hb : Unlimited bs) : Unlimited (as ++ bs) :=
  List.forall_mem_append.mpr ⟨ha, hb⟩

theorem Unlimited.cons {a : Atom} (ha : a ∉ limits) (has : Unlimited as) : Unlimited (a :: as) :=
  List.forall_mem_cons.mpr ⟨ha, has⟩

theorem Unlimited.enclosed (h : Unlimited as) : Unlimited (enclosed as) :=
  (h.cons (by decide)).append (by decide)

theorem Unlimited.separated {separator : Atom} (hs : separator ∉ limits)
    {ass : List (List Atom)} (h : ∀ as ∈ ass, Unlimited as) :
    Unlimited (separated separator ass) := by
  fun_induction SelectGrammar.separated separator ass with
  | case1 => decide
  | case2 as => exact h as List.mem_cons_self
  | case3 as rest hne ih =>
      obtain ⟨has, hrest⟩ := List.forall_mem_cons.mp h
      exact has.append ((ih hrest).cons hs)

theorem Expression.unlimited (h : Expression as) : Unlimited as := by
  induction h with
  | column b n => simp [Unlimited, limits]
  | placeholder => decide
  | constant => exact Unlimited.enclosed (by simp [Unlimited, limits])
  | @binary op ls rs hop _ _ ihl ihr =>
      have hsign : op ∉ limits := by
        revert op
        decide
      exact (ihl.append (ihr.cons hsign)).enclosed
  | @connected w ass hw _ _ ih =>
      have hword : word w ∉ limits := by
        revert w
        decide
      exact (Unlimited.separated hword ih).enclosed
  | not _ ih => exact (ih.cons (by decide)).enclosed
  | isNull _ ih => exact (ih.append (by decide)).enclosed
  | isNotNull _ ih => exact (ih.append (by decide)).enclosed
  | inList _ _ _ ih ihs =>
      have hlist : Unlimited (separated (sign ",") _) := Unlimited.separated (by decide) ihs
      exact (ih.append (hlist.enclosed.cons (by decide))).enclosed
  | notInList _ _ _ ih ihs =>
      have hlist : Unlimited (separated (sign ",") _) := Unlimited.separated (by decide) ihs
      exact (ih.append ((hlist.enclosed.cons (by decide)).cons (by decide))).enclosed
  | rows => decide
  | @call f as hf _ ih =>
      have hword : word f ∉ limits := by
        revert f
        decide
      exact ih.enclosed.cons hword
  | @callDistinct f as hf _ ih =>
      have hword : word f ∉ limits := by
        revert f
        decide
      exact (ih.cons (by decide)).enclosed.cons hword

theorem ResultColumn.unlimited (h : ResultColumn as) : Unlimited as := by
  cases h with
  | expression h => exact h.unlimited
  | named n h => exact h.unlimited.append (by simp [Unlimited, limits])
  | all b => simp [Unlimited, limits]

theorem OrderingTerm.unlimited (h : OrderingTerm as) : Unlimited as := by
  cases h with
  | @term as w hw h =>
      have hword : Unlimited [word w] := by
        revert w
        decide
      exact h.unlimited.append hword

theorem Listed.unlimited {item : List Atom → Prop} (hitem : ∀ as, item as → Unlimited as)
    (h : Listed item as) : Unlimited as := by
  cases h with
  | items _ hall => exact .separated (by decide) fun as has => hitem as (hall as has)

theorem unlimited_aliased (table binding : String) : Unlimited (aliased table binding) := by
  simp [Unlimited, limits, aliased]

theorem Join.unlimited (h : Join as) : Unlimited as := by
  cases h with
  | @on w as table binding hw h =>
      have hword : word w ∉ limits := by
        revert w
        decide
      have hhead := ((unlimited_aliased table binding).cons (a := word "JOIN") (by decide)).cons hword
      exact hhead.append (h.unlimited.cons (by decide))

theorem Clause.unlimited {keyword : List Atom} {body : List Atom → Prop} (hk : Unlimited keyword)
    (hbody : ∀ as, body as → Unlimited as) (h : Clause keyword body as) : Unlimited as := by
  cases h with
  | missing => decide
  | present h => exact hk.append (hbody _ h)

theorem Remainder.unlimited (h : Remainder as) : Unlimited as := by
  cases h with
  | @clauses conditions groups having' order joins table binding hjoins hwhere hgroups hhaving
      horder =>
      have hexpression : ∀ as, Expression as → Unlimited as := fun _ => Expression.unlimited
      have hjoins : Unlimited joins.flatten := fun a ha => by
        obtain ⟨join, hmem, ha⟩ := List.mem_flatten.mp ha
        exact (hjoins join hmem).unlimited a ha
      have hfrom := (unlimited_aliased table binding).cons (a := word "FROM") (by decide)
      have hconditions := hwhere.unlimited (by decide) hexpression
      have hgroups := hgroups.unlimited (by decide) fun _ => Listed.unlimited hexpression
      have hhaving := hhaving.unlimited (by decide) hexpression
      have horder := horder.unlimited (by decide) fun _ =>
        Listed.unlimited fun _ => OrderingTerm.unlimited
      exact ((((hfrom.append hjoins).append hconditions).append hgroups).append hhaving).append
        horder

theorem Remainder.exists_from (h : Remainder as) : ∃ more, as = word "FROM" :: more := by
  cases h
  exact ⟨_, rfl⟩

theorem Body.unlimited (h : Body as) : Unlimited as := by
  cases h with
  | @select opening columns rest hopening hcolumns hrest =>
      have hopening : Unlimited opening := by
        revert opening
        decide
      have hcolumns := hcolumns.unlimited fun _ => ResultColumn.unlimited
      exact (hopening.append hcolumns).append hrest.unlimited

/-- Rows are passed over only where there is a limit. -/
theorem Sentence.limit_of_offset (h : Sentence as) (hoffset : word "OFFSET" ∈ as) :
    word "LIMIT" ∈ as := by
  cases h with
  | all h => exact absurd (by decide) (h.unlimited _ hoffset)
  | limit h hn => simp
  | offset h hn hm => simp

/-! ## What columns begin with -/

/-- What follows an opening word is no column if it is one of these. -/
def noColumns : List Atom := [word "FROM", word "DISTINCT"]

/-- A row of atoms that begins with something that a column can begin with. -/
def Heads (as : List Atom) : Prop := ∃ a rest, as = a :: rest ∧ a ∉ noColumns

theorem Heads.append (h : Heads as) (bs : List Atom) : Heads (as ++ bs) := by
  obtain ⟨a, rest, rfl, ha⟩ := h
  exact ⟨a, rest ++ bs, rfl, ha⟩

theorem Expression.heads (h : Expression as) : Heads as := by
  cases h with
  | column b n => exact ⟨name b, _, rfl, by simp [noColumns]⟩
  | placeholder => exact ⟨sign "?", _, rfl, by decide⟩
  | rows => exact ⟨word "COUNT", _, rfl, by decide⟩
  | @call f as hf =>
      refine ⟨word f, _, rfl, ?_⟩
      revert f
      decide
  | @callDistinct f as hf =>
      refine ⟨word f, _, rfl, ?_⟩
      revert f
      decide
  | _ => exact ⟨sign "(", _, rfl, by decide⟩

theorem ResultColumn.heads (h : ResultColumn as) : Heads as := by
  cases h with
  | expression h => exact h.heads
  | named n h => exact h.heads.append _
  | all b => exact ⟨name b, _, rfl, by simp [noColumns]⟩

theorem Listed.heads (h : Listed ResultColumn as) : Heads as := by
  cases h with
  | @items ass hne hall =>
      cases ass with
      | nil => exact absurd rfl hne
      | cons as rest =>
          have has := (hall as List.mem_cons_self).heads
          cases rest with
          | nil => exact has
          | cons bs rest => exact has.append _

theorem Sentence.exists_opening (h : Sentence as) :
    ∃ opening ∈ openings, ∃ rest, as = opening ++ rest ∧ Heads rest := by
  have hbody : ∀ {bs : List Atom}, Body bs → ∀ cs, ∃ opening ∈ openings, ∃ rest,
      bs ++ cs = opening ++ rest ∧ Heads rest := by
    rintro bs ⟨hopening, hcolumns, hrest⟩ cs
    exact ⟨_, hopening, _, by rw [List.append_assoc, List.append_assoc],
      hcolumns.heads.append _⟩
  cases h with
  | all h => simpa using hbody h []
  | limit h hn => exact hbody h _
  | offset h hn hm => simpa using hbody h _

/-- A selection without columns is no sentence. -/
theorem not_sentence_of_from {opening rest : List Atom} (hopening : opening ∈ openings) :
    ¬ Sentence (opening ++ word "FROM" :: rest) := by
  intro h
  obtain ⟨opening', hopening', rest', heq, a, more, rfl, ha⟩ := h.exists_opening
  simp only [openings, List.mem_cons, List.not_mem_nil, or_false] at hopening hopening'
  rcases hopening with rfl | rfl <;> rcases hopening' with rfl | rfl <;> simp_all [noColumns]

end RecordMapper.SelectGrammar
