import Mathlib
import RecordMapper.Proofs.Sql.TermReader

/-! # The text of a term determines the term

The reader undoes the writing of a term: from its text it gets the term without the values of the
literals. So terms of one text differ in these values only. -/

namespace RecordMapper.Term

open Text Piece

variable {d : Dialect}

/-! ## One step of the reader -/

theorem readTerm_slot (fuel bound : Nat) (cs : List Char) :
    readTerm d (fuel + 1) bound (d.placeholder (bound + 1 : Nat) ++ cs) =
      some (.literal .null, bound + 1, cs) := by
  simp only [readTerm, dropPrefix?_append]

/-- A term that is no literal is read by the word that it begins with. -/
theorem readTerm_head {w : String} {head : Head} (h : (w, head) ∈ heads) (fuel bound : Nat)
    (cs : List Char) :
    readTerm d (fuel + 1) bound (w.toList ++ cs) =
      readHead d (readTerm d fuel) fuel bound cs head := by
  have hwords : ∀ x ∈ heads, x.1.toList ≠ [] ∧ x.1.toList.head? ≠ some d.mark := by
    rcases d.mark_eq with hmark | hmark <;> rw [hmark] <;> decide
  obtain ⟨hne, hmark⟩ := hwords _ h
  have hslot : (w.toList ++ cs).dropPrefix? (d.placeholder (bound + 1 : Nat)) = none := by
    apply dropPrefix?_placeholder
    rwa [List.head?_append_of_ne_nil _ hne]
  simp only [readTerm, hslot, choose_append prefixFree_heads h]
  rfl

theorem starts_head {w : String} {head : Head} (h : (w, head) ∈ heads) (cs : List Char) :
    Starts d (w.toList ++ cs) := by
  have hwords : ∀ x ∈ heads, x.1.toList.head? ∈ (starters d).map some := by
    rcases d.mark_eq with hmark | hmark <;> rw [starters, hmark] <;> decide
  obtain ⟨c, hc, hw⟩ := List.mem_map.mp (hwords _ h)
  obtain ⟨rest, hrest⟩ := List.head?_eq_some_iff.mp hw.symm
  exact ⟨c, rest ++ cs, by rw [hrest]; rfl, hc⟩

theorem exists_word_function {f : AggregateFunction} (hf : ∀ name, f ≠ .other name) :
    ∃ w, (w, Head.function f) ∈ heads ∧ f.word.toUpper.toList ++ ['('] = w.toList := by
  cases f with
  | count => exact ⟨"COUNT(", by simp [heads], by decide +kernel⟩
  | sum => exact ⟨"SUM(", by simp [heads], by decide +kernel⟩
  | avg => exact ⟨"AVG(", by simp [heads], by decide +kernel⟩
  | min => exact ⟨"MIN(", by simp [heads], by decide +kernel⟩
  | max => exact ⟨"MAX(", by simp [heads], by decide +kernel⟩
  | other name => exact absurd rfl (hf name)

/-! ## Names -/

theorem readName_doubled (name : List Char) {rest : List Char} (h : rest.head? ≠ some '"') :
    readName (Dialect.doubled name ++ '"' :: rest) = some (name, rest) := by
  induction name with
  | nil =>
      cases rest with
      | nil => simp [Dialect.doubled, readName]
      | cons c rest =>
          have hc : c ≠ '"' := by simpa using h
          simp [Dialect.doubled, readName, hc]
  | cons c name ih =>
      by_cases hc : c = '"'
      · simp [Dialect.doubled, readName, hc, ih]
      · obtain ⟨d, ds, hd⟩ : ∃ d ds, Dialect.doubled name ++ '"' :: rest = d :: ds := by
          cases Dialect.doubled name <;> simp
        rw [hd] at ih
        simp [Dialect.doubled, hc, hd, readName, ih]

theorem readField_quote (b n : String) {rest : List Char} (h : rest.head? ≠ some '"') :
    readField (Dialect.doubled b.toList ++ '"' :: '.' :: (Dialect.quote n.toList ++ rest)) =
      some (.field b n, rest) := by
  have hbinding := readName_doubled b.toList
    (show ('.' :: (Dialect.quote n.toList ++ rest)).head? ≠ some '"' by simp)
  have hpoint : ('.' :: (Dialect.quote n.toList ++ rest)).dropPrefix? ['.', '"'] =
      some (Dialect.doubled n.toList ++ '"' :: rest) := by
    have htext : '.' :: (Dialect.quote n.toList ++ rest) =
        ['.', '"'] ++ (Dialect.doubled n.toList ++ '"' :: rest) := by
      simp [Dialect.quote]
    rw [htext, dropPrefix?_append]
  have hname := readName_doubled n.toList h
  simp [readField, hbinding, hpoint, hname]

/-! ## What is read -/

/-- A reader reads a term from its pieces, whatever stands behind them but a quote. -/
def Reads (d : Dialect) (read : Reader) (t : Term) (ps : List Piece) : Prop :=
  ∀ bound rest, rest.head? ≠ some '"' →
    read bound (render d bound ps ++ rest) =
      some (t.blank, bound + (parameters ps).length, rest)

/-- A word that can stand behind a term: it does not begin with a quote. -/
def Follows (w : String) : Prop := w.toList ≠ [] ∧ w.toList.head? ≠ some '"'

instance (w : String) : Decidable (Follows w) := inferInstanceAs (Decidable (_ ∧ _))

theorem Follows.head? {w : String} (h : Follows w) (cs : List Char) :
    (w.toList ++ cs).head? ≠ some '"' := by
  rw [List.head?_append_of_ne_nil _ h.1]
  exact h.2

section

variable {read : Reader} {t : Term} {ps : List Piece}

theorem readUpTo_word (h : Reads d read t ps) {w : String} (hw : Follows w) (bound : Nat)
    (cs : List Char) :
    readUpTo read w bound (render d bound ps ++ (w.toList ++ cs)) =
      some (t.blank, bound + (parameters ps).length, cs) := by
  simp [readUpTo, h bound _ (hw.head? cs), dropPrefix?_append]

/-- Terms with a word between them are read up to what does not begin with the word. -/
theorem readList_separated {separator : String} (hs : Follows separator) {ts : List Term}
    {pss : List (List Piece)} (h : List.Forall₂ (Reads d read) ts pss) (hts : ts ≠ []) {fuel : Nat}
    (hfuel : ts.length ≤ fuel) {rest : List Char} (hrest : rest.head? ≠ some '"')
    (hstop : rest.dropPrefix? separator.toList = none) (bound : Nat) :
    readList read separator fuel bound (render d bound (separated separator pss) ++ rest) =
      some (blanks ts, bound + (parameters (separated separator pss)).length, rest) := by
  induction h generalizing fuel bound with
  | nil => exact absurd rfl hts
  | @cons t ps ts pss ht hps ih =>
      cases fuel with
      | zero => simp at hfuel
      | succ fuel =>
          cases hps with
          | nil => simp [separated, readList, ht bound rest hrest, hstop, blanks]
          | @cons u qs ts pss hu hmore =>
              have hlength : (u :: ts).length ≤ fuel := by simpa using hfuel
              have htail := ih (by simp) hlength (bound + (parameters ps).length)
              have hhead := ht bound _ (hs.head?
                (render d (bound + (parameters ps).length) (separated separator (qs :: pss)) ++ rest))
              have hseparated : separated separator (ps :: qs :: pss) =
                  ps ++ .word separator :: separated separator (qs :: pss) := rfl
              rw [hseparated, render_append, render, List.append_assoc, List.append_assoc, readList,
                hhead]
              simp [dropPrefix?_append, htail, blanks, parameters, Nat.add_assoc]

theorem readListUpTo_word {separator w : String} (hs : Follows separator) (hw : Follows w)
    (hfree : separator.toList.head? ≠ w.toList.head?) {ts : List Term} {pss : List (List Piece)}
    (h : List.Forall₂ (Reads d read) ts pss) (hts : ts ≠ []) {fuel : Nat}
    (hfuel : ts.length ≤ fuel) (bound : Nat) (cs : List Char) :
    readListUpTo read separator w fuel bound
        (render d bound (separated separator pss) ++ (w.toList ++ cs)) =
      some (blanks ts, bound + (parameters (separated separator pss)).length, cs) := by
  have hstop : (w.toList ++ cs).dropPrefix? separator.toList = none := by
    refine dropPrefix?_eq_none (not_prefix_of_head? hs.1 ?_)
    rwa [List.head?_append_of_ne_nil _ hw.1]
  have hlist := readList_separated hs h hts hfuel (hw.head? cs) hstop bound
  simp [readListUpTo, hlist, dropPrefix?_append]

/-- The first operand between parentheses, and then what its word begins. -/
theorem readOpened_operand (h : Reads d read t ps)
    (hs : ∀ bound cs, Starts d (render d bound ps ++ cs)) {w : String} {tail : Tail}
    (hmem : (w, tail) ∈ tails d) (fuel bound : Nat) (cs : List Char) :
    readOpened d read fuel bound (render d bound ps ++ (w.toList ++ cs)) =
      readTail read fuel t.blank (bound + (parameters ps).length) cs tail := by
  have hwords : ∀ x ∈ tails d, Follows x.1 := by
    unfold tails
    cases d.hasIlike <;> decide
  rw [readOpened, (hs bound _).choose_marks]
  simp [h bound _ ((hwords _ hmem).head? cs), choose_append (prefixFree_tails d) hmem]

end

/-! ## Terms -/

/-- The text of a term begins like a term, and with enough fuel the reader reads it back. -/
structure Readable (d : Dialect) (t : Term) (ps : List Piece) : Prop where
  starts : ∀ bound cs, Starts d (render d bound ps ++ cs)
  reads : ∃ n, ∀ fuel, n ≤ fuel → Reads d (readTerm d fuel) t ps

theorem exists_forall₂_reads {ts : List Term} {pss : List (List Piece)}
    (h : List.Forall₂ (Readable d) ts pss) :
    ∃ n, ∀ fuel, n ≤ fuel → List.Forall₂ (Reads d (readTerm d fuel)) ts pss := by
  induction h with
  | nil => exact ⟨0, fun _ _ => .nil⟩
  | cons ht _ ih =>
      obtain ⟨m, hm⟩ := ht.reads
      obtain ⟨n, hn⟩ := ih
      exact ⟨max m n, fun fuel hfuel => .cons (hm fuel (by omega)) (hn fuel (by omega))⟩

namespace Readable

variable {t u : Term} {ps qs : List Piece}

/-- A term is readable if one step of the reader reads it, its parts being read. -/
theorem of_step (hs : ∀ bound cs, Starts d (render d bound ps ++ cs))
    (h : ∃ n, ∀ fuel, n ≤ fuel → Reads d (readTerm d (fuel + 1)) t ps) : Readable d t ps := by
  obtain ⟨n, hn⟩ := h
  refine ⟨hs, n + 1, fun fuel hfuel => ?_⟩
  obtain ⟨m, rfl⟩ : ∃ m, fuel = m + 1 := ⟨fuel - 1, by omega⟩
  exact hn m (by omega)

/-- A term between parentheses is readable if what stands behind the first one is read. -/
theorem of_opened {w : String} (rest : String) (hw : w.toList = '(' :: rest.toList)
    {rs : List Piece} (hrs : rs = word w :: ps)
    (h : ∃ n, ∀ fuel, n ≤ fuel → ∀ bound cs, cs.head? ≠ some '"' →
      readOpened d (readTerm d fuel) fuel bound (rest.toList ++ (render d bound ps ++ cs)) =
        some (t.blank, bound + (parameters ps).length, cs)) : Readable d t rs := by
  subst hrs
  obtain ⟨n, hn⟩ := h
  refine of_step (fun bound cs => ?_) ⟨n, fun fuel hfuel bound cs hcs => ?_⟩
  · exact ⟨'(', rest.toList ++ (render d bound ps ++ cs), by simp [render, hw],
      by simp [starters]⟩
  · have hmem : ("(", Head.opened) ∈ heads := by simp [heads]
    have htext : render d bound (word w :: ps) ++ cs =
        "(".toList ++ (rest.toList ++ (render d bound ps ++ cs)) := by
      simp [render, hw]
    rw [htext, readTerm_head hmem, readHead, hn fuel hfuel bound cs hcs]
    rfl

theorem toList_opening : "(".toList = '(' :: "".toList := by simp

/-- The text of pieces with a word behind them. -/
theorem render_word (bound : Nat) (ps qs : List Piece) (w : String) (cs : List Char) :
    render d bound (ps ++ word w :: qs) ++ cs =
      render d bound ps ++
        (w.toList ++ (render d (bound + (parameters ps).length) qs ++ cs)) := by
  simp [render, render_append]

theorem field (b n : String) : Readable d (.field b n) [.name b, word ".", .name n] := by
  refine of_step (fun bound cs => ⟨'"', _, rfl, by simp [starters]⟩) ⟨0, fun fuel _ => ?_⟩
  intro bound rest hrest
  have hmem : ("\"", Head.name) ∈ heads := by simp [heads]
  have htext : render d bound [.name b, word ".", .name n] ++ rest =
      "\"".toList ++ (Dialect.doubled b.toList ++ '"' :: '.' ::
        (Dialect.quote n.toList ++ rest)) := by
    simp [render, Dialect.quote]
  rw [htext, readTerm_head hmem, readHead, readField_quote b n hrest]
  rfl

theorem bound (p : Parameter) : Readable d p.toTerm [.slot p] := by
  have htext : ∀ bound cs, render d bound [.slot p] ++ cs =
      d.placeholder (bound + 1 : Nat) ++ cs := by
    simp [render]
  refine of_step (fun bound cs => ?_) ⟨0, fun fuel _ bound cs _ => ?_⟩
  · obtain ⟨digits, heq, -, -⟩ := d.placeholder_digits (bound + 1)
    exact ⟨d.mark, digits ++ cs, by rw [htext, heq]; rfl, by simp [starters]⟩
  · have hblank : p.toTerm.blank = .literal .null := by cases p <;> rfl
    rw [htext, readTerm_slot, hblank]
    rfl

theorem not (h : Readable d t ps) : Readable d (.not t) (word "(NOT " :: ps ++ [word ")"]) := by
  obtain ⟨n, hn⟩ := h.reads
  have hword : "(NOT ".toList = '(' :: "NOT ".toList := by simp
  have hpieces : word "(NOT " :: ps ++ [word ")"] = word "(NOT " :: (ps ++ [word ")"]) := rfl
  refine of_opened "NOT " hword hpieces ⟨n, fun fuel hfuel bound cs _ => ?_⟩
  have hmark : ("NOT ", Mark.not) ∈ marks d := by
    unfold marks
    cases d.hasIlike <;> simp
  have hoperand := readUpTo_word (hn fuel hfuel) (show Follows ")" by decide) bound cs
  rw [render_word, render, List.nil_append]
  simp only [readOpened, choose_append (prefixFree_marks d) hmark, hoperand]
  simp [blank, parameters]

theorem isNull (h : Readable d t ps) (negated : Bool) :
    Readable d (.isNull t negated)
      (word "(" :: ps ++ [word (if negated then " IS NOT NULL)" else " IS NULL)")]) := by
  obtain ⟨n, hn⟩ := h.reads
  have hpieces : ∀ w, word "(" :: ps ++ [word w] = word "(" :: (ps ++ [word w]) :=
    fun _ => rfl
  refine of_opened "" toList_opening (hpieces _) ⟨n, fun fuel hfuel bound cs _ => ?_⟩
  have hmem : ((if negated then " IS NOT NULL)" else " IS NULL)"), Tail.isNull negated) ∈
      tails d := by
    cases negated <;> exact mem_tails (by simp [commonTails])
  rw [render_word, render, List.nil_append, String.toList_empty, List.nil_append,
    readOpened_operand (hn fuel hfuel) h.starts hmem, readTail]
  simp [blank, parameters]

/-- An operator stands between its operands, or it is written with small letters. -/
theorem operatorWords_cases (d : Dialect) {op : Operator} (hop : ∀ name, op ≠ .other name) :
    (∃ w, operatorWords d op = ("(", w, ")") ∧ (w, Tail.binary op) ∈ tails d) ∨
      (op = .ilike ∧ operatorWords d op = ("(LOWER(", ") LIKE LOWER(", "))") ∧
        ("LOWER(", Mark.lower) ∈ marks d) := by
  have hwords : ∀ w, op ≠ .ilike → " " ++ op.symbol.toUpper ++ " " = w →
      (w, .binary op) ∈ commonTails →
        ∃ w, operatorWords d op = ("(", w, ")") ∧ (w, Tail.binary op) ∈ tails d := by
    rintro w hne rfl hmem
    exact ⟨_, if_neg fun h => hne h.1, mem_tails hmem⟩
  cases op with
  | eq => exact .inl (hwords " = " (by simp) (by decide +kernel) (by simp [commonTails]))
  | ne => exact .inl (hwords " <> " (by simp) (by decide +kernel) (by simp [commonTails]))
  | lt => exact .inl (hwords " < " (by simp) (by decide +kernel) (by simp [commonTails]))
  | le => exact .inl (hwords " <= " (by simp) (by decide +kernel) (by simp [commonTails]))
  | gt => exact .inl (hwords " > " (by simp) (by decide +kernel) (by simp [commonTails]))
  | ge => exact .inl (hwords " >= " (by simp) (by decide +kernel) (by simp [commonTails]))
  | like => exact .inl (hwords " LIKE " (by simp) (by decide +kernel) (by simp [commonTails]))
  | add => exact .inl (hwords " + " (by simp) (by decide +kernel) (by simp [commonTails]))
  | sub => exact .inl (hwords " - " (by simp) (by decide +kernel) (by simp [commonTails]))
  | mul => exact .inl (hwords " * " (by simp) (by decide +kernel) (by simp [commonTails]))
  | div => exact .inl (hwords " / " (by simp) (by decide +kernel) (by simp [commonTails]))
  | ilike =>
      cases hilike : d.hasIlike with
      | true =>
          have hword : " " ++ Operator.ilike.symbol.toUpper ++ " " = " ILIKE " := by decide +kernel
          refine .inl ⟨" ILIKE ", ?_, by simp [tails, hilike]⟩
          simp [operatorWords, hilike, ← hword]
      | false => exact .inr ⟨rfl, by simp [operatorWords, hilike], by simp [marks, hilike]⟩
  | other name => exact absurd rfl (hop name)

theorem binary {op : Operator} (hop : ∀ name, op ≠ .other name) (hl : Readable d t ps)
    (hr : Readable d u qs) : Readable d (.binary op t u) (binaryPieces d op ps qs) := by
  obtain ⟨m, hm⟩ := hl.reads
  obtain ⟨n, hn⟩ := hr.reads
  rcases operatorWords_cases d hop with ⟨w, hwords, hmem⟩ | ⟨rfl, hwords, hmark⟩
  · have hpieces : binaryPieces d op ps qs = word "(" :: (ps ++ word w :: (qs ++ [word ")"])) := by
      simp [binaryPieces, hwords]
    refine of_opened "" toList_opening hpieces
      ⟨max m n, fun fuel hfuel bound cs _ => ?_⟩
    have hright := readUpTo_word (hn fuel (by omega)) (show Follows ")" by decide)
      (bound + (parameters ps).length) cs
    rw [render_word, render_word, render, List.nil_append, String.toList_empty, List.nil_append,
      readOpened_operand (hm fuel (by omega)) hl.starts hmem, readTail, hright]
    simp [blank, parameters, Nat.add_assoc]
  · have hpieces : binaryPieces d .ilike ps qs =
        word "(LOWER(" :: (ps ++ word ") LIKE LOWER(" :: (qs ++ [word "))"])) := by
      simp [binaryPieces, hwords]
    have hword : "(LOWER(".toList = '(' :: "LOWER(".toList := by simp
    refine of_opened "LOWER(" hword hpieces ⟨max m n, fun fuel hfuel bound cs _ => ?_⟩
    rw [render_word, render_word, render, List.nil_append]
    have hleft := readUpTo_word (hm fuel (by omega)) (show Follows ") LIKE LOWER(" by decide) bound
      (render d (bound + (parameters ps).length) qs ++ ("))".toList ++ cs))
    have hright := readUpTo_word (hn fuel (by omega)) (show Follows "))" by decide)
      (bound + (parameters ps).length) cs
    simp only [readOpened, choose_append (prefixFree_marks d) hmark, hleft, hright,
      Option.bind_eq_bind, Option.bind_some]
    simp [blank, parameters, Nat.add_assoc]

theorem connected {op : Connective} {w : String} (hw : connectiveWord op = .ok w)
    {ts : List Term} {pss : List (List Piece)} (h : List.Forall₂ (Readable d) ts pss)
    (hts : 2 ≤ ts.length) :
    Readable d (.connected op ts) (word "(" :: separated w pss ++ [word ")"]) := by
  have hmem : (w, Tail.connected op w) ∈ tails d := by
    cases op <;> simp only [connectiveWord, Except.ok.injEq, reduceCtorEq] at hw <;> subst hw <;>
      exact mem_tails (by simp [commonTails])
  have hfollows : Follows w ∧ w.toList.head? ≠ ")".toList.head? := by
    cases op <;> simp only [connectiveWord, Except.ok.injEq, reduceCtorEq] at hw <;> subst hw <;>
      decide
  cases h with
  | nil => simp at hts
  | @cons t ps ts pss ht hmore =>
      cases hmore with
      | nil => simp at hts
      | @cons u qs ts pss hu hmore =>
          obtain ⟨m, hm⟩ := ht.reads
          obtain ⟨n, hn⟩ := exists_forall₂_reads (.cons hu hmore)
          have hpieces : word "(" :: separated w (ps :: qs :: pss) ++ [word ")"] =
              word "(" :: (ps ++ word w :: (separated w (qs :: pss) ++ [word ")"])) := by
            simp [separated]
          refine of_opened "" toList_opening hpieces
            ⟨max (max m n) (ts.length + 1), fun fuel hfuel bound cs _ => ?_⟩
          have hlist := readListUpTo_word hfollows.1 (show Follows ")" by decide) hfollows.2
            (hn fuel (by omega)) (by simp) (show (u :: ts).length ≤ fuel by simp; omega)
            (bound + (parameters ps).length) cs
          rw [render_word, render_word, render, List.nil_append, String.toList_empty,
            List.nil_append, readOpened_operand (hm fuel (by omega)) ht.starts hmem, readTail,
            hlist]
          simp [blank, blanks, parameters, Nat.add_assoc]

theorem inList (h : Readable d t ps) {v : Term} {vs : List Term} {pss : List (List Piece)}
    (hvs : List.Forall₂ (Readable d) (v :: vs) pss) (negated : Bool) :
    Readable d (.inList t (v :: vs) negated)
      (word "(" :: ps ++ word (if negated then " NOT IN (" else " IN (") ::
        separated ", " pss ++ [word "))"]) := by
  obtain ⟨m, hm⟩ := h.reads
  obtain ⟨n, hn⟩ := exists_forall₂_reads hvs
  have hmem : ((if negated then " NOT IN (" else " IN ("), Tail.inList negated) ∈ tails d := by
    cases negated <;> exact mem_tails (by simp [commonTails])
  have hpieces : ∀ w, word "(" :: ps ++ word w :: separated ", " pss ++ [word "))"] =
      word "(" :: (ps ++ word w :: (separated ", " pss ++ [word "))"])) := by
    simp
  refine of_opened "" toList_opening (hpieces _)
    ⟨max (max m n) (vs.length + 1), fun fuel hfuel bound cs _ => ?_⟩
  have hlist := readListUpTo_word (show Follows ", " by decide) (show Follows "))" by decide)
    (by decide) (hn fuel (by omega)) (by simp) (show (v :: vs).length ≤ fuel by simp; omega)
    (bound + (parameters ps).length) cs
  rw [render_word, render_word, render, List.nil_append, String.toList_empty, List.nil_append,
    readOpened_operand (hm fuel (by omega)) h.starts hmem, readTail, hlist]
  simp [blank, parameters, Nat.add_assoc]

theorem rows : Readable d (.aggregate .count none false) [word "COUNT(*)"] := by
  have hhead : ("COUNT(", Head.function .count) ∈ heads := by simp [heads]
  have hmark : ("*)", ArgumentMark.rows) ∈ argumentMarks := by simp [argumentMarks]
  have htext : ∀ bound cs, render d bound [word "COUNT(*)"] ++ cs =
      "COUNT(".toList ++ ("*)".toList ++ cs) := by
    simp [render]
  refine of_step (fun bound cs => ?_) ⟨0, fun fuel _ bound cs _ => ?_⟩
  · rw [htext]
    exact starts_head hhead _
  · rw [htext, readTerm_head hhead, readHead, readArgument,
      choose_append prefixFree_argumentMarks hmark]
    rfl

theorem aggregate {f : AggregateFunction} (hf : ∀ name, f ≠ .other name) (h : Readable d t ps)
    (distinct : Bool) :
    Readable d (.aggregate f (some t) distinct)
      (word f.word.toUpper :: word (if distinct then "(DISTINCT " else "(") ::
        ps ++ [word ")"]) := by
  obtain ⟨n, hn⟩ := h.reads
  obtain ⟨w, hhead, hw⟩ := exists_word_function hf
  have hmark : ("DISTINCT ", ArgumentMark.distinct) ∈ argumentMarks := by simp [argumentMarks]
  have htext : ∀ bound cs, render d bound (word f.word.toUpper ::
      word (if distinct then "(DISTINCT " else "(") :: ps ++ [word ")"]) ++ cs =
      w.toList ++ ((if distinct then "DISTINCT " else "").toList ++
        (render d bound ps ++ (")".toList ++ cs))) := by
    intro bound cs
    rw [← hw]
    cases distinct <;> simp [render, render_append]
  refine of_step (fun bound cs => ?_) ⟨n, fun fuel hfuel bound cs _ => ?_⟩
  · rw [htext]
    exact starts_head hhead _
  · have hoperand := readUpTo_word (hn fuel hfuel) (show Follows ")" by decide) bound cs
    rw [htext, readTerm_head hhead, readHead, readArgument]
    cases distinct with
    | true =>
        simp only [if_true, choose_append prefixFree_argumentMarks hmark, hoperand]
        simp [blank, parameters]
    | false =>
        simp only [Bool.false_eq_true, if_false, String.toList_empty, List.nil_append,
          (h.starts bound _).choose_argumentMarks, hoperand]
        simp [blank, parameters]

end Readable

theorem compositional_readable (d : Dialect) (s : Scope) :
    Compositional d s (fun t ps => t.Regular → Readable d t ps) where
  field b n _ := .field b n
  bound p _ := .bound p
  binary hop hl hr h := by
    obtain ⟨hwl, hwr⟩ := List.forall_mem_append.mp (List.forall_mem_cons.mp h).2
    exact .binary (ne_other_of_checkOperator hop) (hl hwl) (hr hwr)
  connected hw hts h := by
    obtain ⟨hcount, hnodes⟩ := List.forall_mem_cons.mp h
    exact .connected hw (forall₂_of_allNodes hts hnodes) hcount
  not ht h := .not (ht (List.forall_mem_cons.mp h).2)
  isNull negated ht h := .isNull (ht (List.forall_mem_cons.mp h).2) negated
  inNone _ _ _ h := absurd rfl (h _ List.mem_cons_self)
  inList negated ht hvs h := by
    obtain ⟨hwt, hwvs⟩ := List.forall_mem_append.mp (List.forall_mem_cons.mp h).2
    exact .inList (ht hwt) (forall₂_of_allNodes hvs hwvs) negated
  rows distinct h := by
    obtain rfl : distinct = false := h _ List.mem_cons_self
    exact .rows
  aggregate distinct hf ht h := by
    refine .aggregate ?_ (ht (List.forall_mem_cons.mp h).2) distinct
    rintro name rfl
    simp [checkAggregate] at hf
  fragment _ _ _ h := (h _ List.mem_cons_self).elim

variable {s s' : Scope} {inAggregate inAggregate' : Bool} {t u : Term} {ps qs : List Piece}

/-- With enough fuel the reader reads the blank form of a term from its text. -/
theorem exists_readTerm (h : t.pieces d s inAggregate = .ok ps) (hr : t.Regular) (bound : Nat) :
    ∃ n, ∀ fuel, n ≤ fuel → readTerm d fuel bound (render d bound ps) =
      some (t.blank, bound + (parameters ps).length, []) := by
  obtain ⟨n, hn⟩ := ((compositional_readable d s).of_pieces h hr).reads
  refine ⟨n, fun fuel hfuel => ?_⟩
  simpa using hn fuel hfuel bound [] (by simp)

/-- Two regular terms of one text, behind the same number of bound values, differ in the values of
their literals only. If these are the same, so are the terms; if a key does not tell the values
apart, it does not tell the terms apart. -/
theorem eq_of_render_eq (ht : t.pieces d s inAggregate = .ok ps)
    (hu : u.pieces d s' inAggregate' = .ok qs) (hrt : t.Regular) (hru : u.Regular) {bound : Nat}
    (htext : render d bound ps = render d bound qs) :
    t.blank = u.blank ∧ (parameters ps = parameters qs → t = u) ∧
      (SameAll (parameters ps) (parameters qs) → same? t u = some true) := by
  obtain ⟨m, hm⟩ := exists_readTerm ht hrt bound
  obtain ⟨n, hn⟩ := exists_readTerm hu hru bound
  have hreads := (hm (max m n) (by omega)).symm.trans (htext ▸ hn (max m n) (by omega))
  have hblank : t.blank = u.blank := congrArg Prod.fst (Option.some.inj hreads)
  rw [parameters_pieces ht, parameters_pieces hu]
  exact ⟨hblank, eq_of_blank_eq ht hu hrt hru hblank, same?_of_blank_eq ht hu hrt hru hblank⟩

/-- Two comparisons with another value. -/
theorem eq_of_render_eq_comparison :
    let t : Term := .not (.binary .lt (.field "a" "n") (.literal (.int 1)))
    let u : Term := .not (.binary .lt (.field "a" "n") (.literal (.int 2)))
    let s : Scope := ⟨[⟨"a", "a", none⟩], .where⟩
    ∃ ps qs, t.pieces .postgres s false = .ok ps ∧ u.pieces .postgres s false = .ok qs ∧
      render .postgres 3 ps = render .postgres 3 qs ∧ t.blank = u.blank := by
  intro t u s
  have ht : t.pieces .postgres s false = .ok [.word "(NOT ", .word "(", .name "a", .word ".",
      .name "n", .word " < ", .slot (.value (.int 1)), .word ")", .word ")"] := by
    cbv
  have hu : u.pieces .postgres s false = .ok [.word "(NOT ", .word "(", .name "a", .word ".",
      .name "n", .word " < ", .slot (.value (.int 2)), .word ")", .word ")"] := by
    cbv
  have hrt : t.Regular := by simp [t, Regular, nodes, RegularAt]
  have hru : u.Regular := by simp [u, Regular, nodes, RegularAt]
  have htext : render .postgres 3 [.word "(NOT ", .word "(", .name "a", .word ".", .name "n",
      .word " < ", .slot (.value (.int 1)), .word ")", .word ")"] =
      render .postgres 3 [.word "(NOT ", .word "(", .name "a", .word ".", .name "n",
        .word " < ", .slot (.value (.int 2)), .word ")", .word ")"] := rfl
  obtain ⟨hblank, -, -⟩ := eq_of_render_eq ht hu hrt hru htext
  exact ⟨_, _, ht, hu, htext, hblank⟩

end RecordMapper.Term
