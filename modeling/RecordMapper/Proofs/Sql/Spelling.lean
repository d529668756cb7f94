import RecordMapper.Proofs.Fragment.Names
import RecordMapper.Proofs.Sql.Placeholder
import RecordMapper.Proofs.Sql.Vocabulary

/-! # Names in the text of a statement

After every name among the pieces of a statement comes a word, so the quotes of two names never
meet. Cut like a fragment, the text has one token for each name. What stands around the names are
words and placeholders. -/

namespace RecordMapper

/-! ## Texts -/

/-- Words of statements and placeholders, one after the other. -/
inductive IsFixed (d : Dialect) : List Char → Prop where
  | nil : IsFixed d []
  | word {w : String} {cs : List Char} : w ∈ Piece.vocabulary → IsFixed d cs →
      IsFixed d (w.toList ++ cs)
  | placeholder (n : Nat) {cs : List Char} : IsFixed d cs → IsFixed d (d.placeholder n ++ cs)

/-- Quoted names that are known, with words and placeholders around them. No quote comes right after
a name. -/
inductive Spelled (d : Dialect) (known : String → Prop) : List Char → Prop where
  | fixed {cs : List Char} : IsFixed d cs → Spelled d known cs
  | name {cs rest : List Char} {n : String} : IsFixed d cs → known n → rest.head? ≠ some '"' →
      Spelled d known rest → Spelled d known (cs ++ (Dialect.quote n.toList ++ rest))

variable {d : Dialect} {known : String → Prop}

theorem isBare_of_mem_word : ∀ w ∈ Piece.vocabulary, w.toList.all Fragment.isBare = true := by
  decide

theorem isBare_of_mem_placeholder {n : Nat} {c : Char} (h : c ∈ d.placeholder n) :
    Fragment.isBare c = true := by
  obtain ⟨digits, heq, hdigits, -⟩ := d.placeholder_digits n
  rw [heq, List.mem_cons] at h
  rcases h with rfl | h
  · rcases d.mark_eq with hmark | hmark <;> rw [hmark] <;> decide
  · have hdigit := hdigits c h
    simp only [Fragment.isBare, Text.isQuote, Bool.and_eq_true, Bool.not_eq_true',
      decide_eq_false_iff_not, bne_iff_ne]
    constructor
    · rintro (rfl | rfl) <;> revert hdigit <;> decide
    · rintro rfl
      revert hdigit
      decide

theorem IsFixed.isBare {cs : List Char} (h : IsFixed d cs) : ∀ c ∈ cs, Fragment.isBare c = true := by
  induction h with
  | nil => simp
  | word hw _ ih =>
      have hword := List.all_eq_true.mp (isBare_of_mem_word _ hw)
      exact List.forall_mem_append.mpr ⟨hword, ih⟩
  | placeholder n _ ih =>
      exact List.forall_mem_append.mpr ⟨fun c hc => isBare_of_mem_placeholder hc, ih⟩

namespace Spelled

theorem word {w : String} {cs : List Char} (hw : w ∈ Piece.vocabulary) (h : Spelled d known cs) :
    Spelled d known (w.toList ++ cs) := by
  cases h with
  | fixed hcs => exact .fixed (.word hw hcs)
  | name hcs hn hrest h =>
      rw [← List.append_assoc]
      exact .name (.word hw hcs) hn hrest h

theorem placeholder (n : Nat) {cs : List Char} (h : Spelled d known cs) :
    Spelled d known (d.placeholder n ++ cs) := by
  cases h with
  | fixed hcs => exact .fixed (.placeholder n hcs)
  | name hcs hn hrest h =>
      rw [← List.append_assoc]
      exact .name (.placeholder n hcs) hn hrest h

end Spelled

/-- Tokens that show known names only, and words and placeholders around them. -/
structure Shows (d : Dialect) (known : String → Prop) (ts : List FragmentToken) : Prop where
  kinds : ∀ t ∈ ts, t.kind = .slot ∨ t.kind = .text ∨ t.kind = .quotedName
  names : ∀ t ∈ ts, t.kind = .quotedName → ∃ n, known n ∧ t.chars = Dialect.quote n.toList
  around : ∀ cs ∈ Fragment.between ts, IsFixed d cs

namespace Shows

variable {place : Nat} {cs : List Char} {ts us : List FragmentToken}

theorem ne_quotedName_of_cut (h : Fragment.Cut place cs ts) : ∀ t ∈ ts, t.kind ≠ .quotedName := by
  intro t ht
  rcases h.kinds t ht with hk | hk <;> simp [hk]

theorem of_cut (h : Fragment.Cut place cs ts) (hcs : IsFixed d cs) : Shows d known ts where
  kinds t ht := (h.kinds t ht).imp_right .inl
  names t ht hk := absurd hk (ne_quotedName_of_cut h t ht)
  around := by
    have hbetween : Fragment.between (ts ++ []) = [cs ++ []] := by
      rw [Fragment.between_append (ne_quotedName_of_cut h), h.chars]
      rfl
    rw [List.append_nil, List.append_nil] at hbetween
    simpa [hbetween] using hcs

/-- A name stands between fixed text and what shows known names. -/
theorem name (hcut : Fragment.Cut place cs ts) (hcs : IsFixed d cs) {n : String} (hn : known n)
    (position : Nat) (h : Shows d known us) :
    Shows d known (ts ++ ⟨.quotedName, Dialect.quote n.toList, position⟩ :: us) where
  kinds := by
    have hfront : Shows d known ts := of_cut hcut hcs
    exact List.forall_mem_append.mpr
      ⟨hfront.kinds, List.forall_mem_cons.mpr ⟨.inr (.inr rfl), h.kinds⟩⟩
  names := by
    have hfront : Shows d known ts := of_cut hcut hcs
    exact List.forall_mem_append.mpr
      ⟨hfront.names, List.forall_mem_cons.mpr ⟨fun _ => ⟨n, hn, rfl⟩, h.names⟩⟩
  around := by
    rw [Fragment.between_append (ne_quotedName_of_cut hcut), hcut.chars, Fragment.between, if_pos rfl]
    simpa using ⟨hcs, h.around⟩

end Shows

/-- A spelled text is cut into tokens that make it up and show its names. -/
theorem Spelled.scan {cs : List Char} (h : Spelled d known cs) (place : Nat) :
    ∃ ts, Fragment.scan place cs = .ok ts ∧ ts.flatMap FragmentToken.chars = cs ∧
      Shows d known ts := by
  induction h generalizing place with
  | @fixed cs hcs =>
      obtain ⟨ts, hcut⟩ := Fragment.exists_cut hcs.isBare place
      have hscan := hcut.scan_append [] (by simp [Fragment.Stops])
      refine ⟨ts, ?_, hcut.chars, .of_cut hcut hcs⟩
      simpa [Fragment.scan, Except.map] using hscan
  | @name cs rest n hcs hn hrest _ ih =>
      obtain ⟨ts, hcut⟩ := Fragment.exists_cut hcs.isBare place
      obtain ⟨us, hus, hchars, hshows⟩ :=
        ih (place + cs.length + (Dialect.quote n.toList).length)
      have hstops : Fragment.Stops (Dialect.quote n.toList ++ rest) := by
        simp [Fragment.Stops, Dialect.quote]
      have hscan := hcut.scan_append _ hstops
      rw [Fragment.scan_quote n.toList hrest, hus] at hscan
      exact ⟨_, hscan, by simp [hcut.chars, hchars], .name hcut hcs hn _ hshows⟩

/-! ## Pieces -/

namespace Piece

/-- There are no pieces, or a word is the first of them. -/
def Opens : List Piece → Prop
  | [] => True
  | .word _ :: _ => True
  | _ => False

/-- Words, placeholders and known names, with a word after each name that is not the last piece. -/
inductive Lettered (known : String → Prop) : List Piece → Prop where
  | nil : Lettered known []
  | word {w : String} {ps : List Piece} : w ∈ vocabulary → Lettered known ps →
      Lettered known (.word w :: ps)
  | slot (p : Parameter) {ps : List Piece} : Lettered known ps → Lettered known (.slot p :: ps)
  | unplaced (p : Parameter) {ps : List Piece} : Lettered known ps →
      Lettered known (.unplaced p :: ps)
  | name {n : String} {ps : List Piece} : known n → Opens ps → Lettered known ps →
      Lettered known (.name n :: ps)

variable {ps qs : List Piece}

theorem Opens.append (hp : Opens ps) (hq : Opens qs) : Opens (ps ++ qs) := by
  cases ps with
  | nil => exact hq
  | cons p ps => cases p <;> exact hp

/-- The text after a name does not begin with a quote. -/
theorem Lettered.head?_render (h : Lettered known ps) (ho : Opens ps) (bound : Nat) :
    (render d bound ps).head? ≠ some '"' := by
  cases h with
  | nil => simp [render]
  | @word w ps hw _ =>
      have hplain := isPlainWord_of_mem_vocabulary w hw
      unfold isPlainWord at hplain
      split at hplain
      · simp at hplain
      · rename_i c cs hc
        rw [render, hc]
        rintro ⟨⟩
        revert hplain
        simp [Text.isQuote]
  | _ => exact ho.elim

/-- The text of pieces spells their names. -/
theorem Lettered.spelled (h : Lettered known ps) (bound : Nat) :
    Spelled d known (render d bound ps) := by
  induction h generalizing bound with
  | nil => exact .fixed .nil
  | word hw _ ih => exact .word hw (ih bound)
  | slot p _ ih => exact .placeholder (bound + 1) (ih (bound + 1))
  | unplaced p _ ih => exact ih (bound + 1)
  | name hn ho hps ih => exact .name .nil hn (hps.head?_render ho bound) (ih bound)

/-- Pieces that can come after a name: words, placeholders and known names, a word being the first
of them. -/
structure Phrase (known : String → Prop) (ps : List Piece) : Prop where
  lettered : Lettered known ps
  opens : Opens ps

theorem Lettered.append (hp : Lettered known ps) (hq : Phrase known qs) :
    Lettered known (ps ++ qs) := by
  induction hp with
  | nil => exact hq.lettered
  | word hw _ ih => exact .word hw ih
  | slot p _ ih => exact .slot p ih
  | unplaced p _ ih => exact .unplaced p ih
  | name hn ho _ ih => exact .name hn (ho.append hq.opens) ih

namespace Phrase

theorem nil : Phrase known [] := ⟨.nil, trivial⟩

theorem word {w : String} (hw : w ∈ vocabulary) (h : Lettered known ps) :
    Phrase known (.word w :: ps) := ⟨.word hw h, trivial⟩

theorem append (hp : Phrase known ps) (hq : Phrase known qs) : Phrase known (ps ++ qs) :=
  ⟨hp.lettered.append hq, hp.opens.append hq.opens⟩

theorem flatten {pss : List (List Piece)} (h : ∀ ps ∈ pss, Phrase known ps) :
    Phrase known pss.flatten := by
  induction pss with
  | nil => exact .nil
  | cons ps pss ih =>
      obtain ⟨hps, hpss⟩ := List.forall_mem_cons.mp h
      exact hps.append (ih hpss)

/-- Pieces with a word before and a word after them. -/
theorem enclosed {before after : String} (hb : before ∈ vocabulary) (h : Lettered known ps)
    (ha : after ∈ vocabulary) : Phrase known (.word before :: ps ++ [.word after]) :=
  .word hb (h.append (.word ha .nil))

end Phrase

end Piece

/-! ## Terms -/

namespace Term

open Piece

end Term

end RecordMapper
