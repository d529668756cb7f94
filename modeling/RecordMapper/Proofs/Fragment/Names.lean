import RecordMapper.Proofs.Fragment.Closed
import RecordMapper.Sql.Dialect

/-! # Names in fragments

A text without quotes and backslashes is cut into slots and texts. A name between quotes is one
token, whatever the name is, as long as no quote comes right after it. -/

namespace RecordMapper.Fragment

open Text

/-- Whether the character is no quote and no backslash. -/
def isBare (c : Char) : Bool := !isQuote c && c != '\\'

theorem isPlain_iff_of_isBare {c : Char} (h : isBare c = true) : isPlain c = true ↔ c ≠ '?' := by
  simp only [isBare, Bool.and_eq_true, Bool.not_eq_true', bne_iff_ne] at h
  simp [isPlain_iff, h]

/-- The text is empty or begins with the quote of a name. -/
def Stops (cs : List Char) : Prop := ∀ c ∈ cs.head?, c = '"'

theorem takeWhile_append_of_stops (cs : List Char) {rest : List Char} (h : Stops rest) :
    (cs ++ rest).takeWhile isPlain = cs.takeWhile isPlain := by
  have hrest : rest.takeWhile isPlain = [] := by
    cases rest with
    | nil => rfl
    | cons c rest =>
        obtain rfl := h c rfl
        rfl
  rw [List.takeWhile_append, hrest, List.append_nil]
  split
  · rename_i hall
    exact ((List.takeWhile_prefix isPlain).eq_of_length hall).symm
  · rfl

theorem scan_cons_of_front {place extra : Nat} {c : Char} {cs : List Char} {t : FragmentToken}
    (h : front place c cs = .ok (t, extra)) :
    scan place (c :: cs) = (scan (place + extra + 1) (cs.drop extra)).map (t :: ·) := by
  rw [scan, h]

/-- A text is cut into slots and texts, whatever comes after it. -/
structure Cut (place : Nat) (cs : List Char) (ts : List FragmentToken) : Prop where
  kinds : ∀ t ∈ ts, t.kind = .slot ∨ t.kind = .text
  chars : ts.flatMap FragmentToken.chars = cs
  scan_append : ∀ rest, Stops rest →
    scan place (cs ++ rest) = (scan (place + cs.length) rest).map (ts ++ ·)

namespace Cut

variable {place : Nat} {c : Char} {cs : List Char} {ts : List FragmentToken}

theorem nil (place : Nat) : Cut place [] [] where
  kinds := by simp
  chars := rfl
  scan_append rest _ := by
    rw [List.nil_append, List.length_nil, Nat.add_zero]
    cases scan place rest <;> rfl

/-- A token is put in front of the tokens of the text behind it. -/
theorem cons {t : FragmentToken} {extra : Nat} (hkind : t.kind = .slot ∨ t.kind = .text)
    (hextra : extra ≤ cs.length) (hchars : t.chars = c :: cs.take extra)
    (hfront : ∀ rest, Stops rest → front place c (cs ++ rest) = .ok (t, extra))
    (h : Cut (place + extra + 1) (cs.drop extra) ts) : Cut place (c :: cs) (t :: ts) where
  kinds := List.forall_mem_cons.mpr ⟨hkind, h.kinds⟩
  chars := by simp [h.chars, hchars]
  scan_append rest hrest := by
    have hplace : place + extra + 1 + (cs.drop extra).length = place + (c :: cs).length := by
      simp only [List.length_drop, List.length_cons]
      omega
    rw [List.cons_append, scan_cons_of_front (hfront rest hrest),
      List.drop_append_of_le_length hextra, h.scan_append rest hrest, hplace]
    cases scan (place + (c :: cs).length) rest <;> rfl

theorem slot (h : Cut (place + 1) cs ts) : Cut place ('?' :: cs) (⟨.slot, ['?'], place⟩ :: ts) :=
  cons (.inl rfl) (Nat.zero_le _) rfl (fun _ _ => rfl) h

theorem text (hc : isPlain c = true)
    (h : Cut (place + (cs.takeWhile isPlain).length + 1) (cs.dropWhile isPlain) ts) :
    Cut place (c :: cs) (⟨.text, c :: cs.takeWhile isPlain, place⟩ :: ts) := by
  have hprefix := List.takeWhile_prefix isPlain (l := cs)
  have hdrop : cs.drop (cs.takeWhile isPlain).length = cs.dropWhile isPlain := by
    conv_lhs => arg 2; rw [← List.takeWhile_append_dropWhile (p := isPlain) (l := cs)]
    exact List.drop_left
  refine cons (.inr rfl) hprefix.length_le ?_ (fun rest hrest => ?_) (by rwa [hdrop])
  · rw [← List.prefix_iff_eq_take.mp hprefix]
  · obtain ⟨hslot, hquote, hback⟩ := isPlain_iff.mp hc
    have hquotes : ¬ (c = '\'' ∨ c = '"') := by
      simpa [isQuote, or_comm] using hquote
    simp only [front, if_neg hslot, if_neg hquotes, if_neg hback,
      takeWhile_append_of_stops cs hrest]

end Cut

/-- Text without quotes and backslashes is read to its end. -/
theorem exists_cut {cs : List Char} (h : ∀ c ∈ cs, isBare c = true) (place : Nat) :
    ∃ ts, Cut place cs ts := by
  match cs with
  | [] => exact ⟨[], .nil place⟩
  | c :: cs =>
      obtain ⟨hc, hcs⟩ := List.forall_mem_cons.mp h
      by_cases hslot : c = '?'
      · obtain ⟨ts, hts⟩ := exists_cut hcs (place + 1)
        subst hslot
        exact ⟨_, hts.slot⟩
      -- a token of text takes all plain characters at once, so what is left is shorter by more
      · have hshort := (List.dropWhile_sublist isPlain (l := cs)).length_le
        have hrest : ∀ d ∈ cs.dropWhile isPlain, isBare d = true := fun d hd =>
          hcs d ((List.dropWhile_sublist isPlain).subset hd)
        obtain ⟨ts, hts⟩ := exists_cut hrest (place + (cs.takeWhile isPlain).length + 1)
        exact ⟨_, .text ((isPlain_iff_of_isBare hc).mpr hslot) hts⟩
termination_by cs.length

/-! ## Quoted names -/

/-- A name with its quotes doubled is read up to the quote that closes it. -/
theorem quotedBody_doubled (name : List Char) {rest : List Char} (h : rest.head? ≠ some '"')
    (start place : Nat) :
    quotedBody '"' start place (Dialect.doubled name ++ '"' :: rest) =
      .ok (Dialect.doubled name ++ ['"']) := by
  induction name generalizing start place with
  | nil =>
      cases rest with
      | nil => simp [Dialect.doubled, quotedBody]
      | cons d rest =>
          have hd : d ≠ '"' := by simpa using h
          simp [Dialect.doubled, quotedBody, hd]
  | cons c name ih =>
      by_cases hc : c = '"'
      · simp [Dialect.doubled, hc, quotedBody, ih, Except.map]
      · have hnext : ∃ d ds, Dialect.doubled name ++ '"' :: rest = d :: ds := by
          cases Dialect.doubled name <;> simp
        obtain ⟨d, ds, hd⟩ := hnext
        have htail := ih start (place + 1)
        rw [hd] at htail
        simp [Dialect.doubled, hc, hd, quotedBody, htail, Except.map]

/-- A quoted name is one token, if no quote comes right after it. -/
theorem scan_quote (name : List Char) {rest : List Char} (h : rest.head? ≠ some '"')
    (place : Nat) :
    scan place (Dialect.quote name ++ rest) =
      (scan (place + (Dialect.quote name).length) rest).map
        (⟨.quotedName, Dialect.quote name, place⟩ :: ·) := by
  have hbody := quotedBody_doubled name h place (place + 1)
  have hfront : front place '"' (Dialect.doubled name ++ '"' :: rest) =
      .ok (⟨.quotedName, Dialect.quote name, place⟩, (Dialect.doubled name ++ ['"']).length) := by
    simp [front, hbody, Dialect.quote, bind, Except.bind, pure, Except.pure]
  have hdrop : (Dialect.doubled name ++ '"' :: rest).drop (Dialect.doubled name ++ ['"']).length =
      rest := by
    rw [List.append_cons _ '"' rest, List.drop_left]
  have htext : Dialect.quote name ++ rest = '"' :: (Dialect.doubled name ++ '"' :: rest) := by
    simp [Dialect.quote]
  rw [htext, scan, hfront]
  simp only [hdrop]
  rw [Dialect.quote, List.cons_append, List.length_cons, Nat.add_assoc]

/-! ## Around the names -/

/-- The texts before, between and after the quoted names of tokens. -/
def between : List FragmentToken → List (List Char)
  | [] => [[]]
  | t :: ts =>
    if t.kind = .quotedName then [] :: between ts else (between ts).modifyHead (t.chars ++ ·)

theorem between_append {ts us : List FragmentToken} (h : ∀ t ∈ ts, t.kind ≠ .quotedName) :
    between (ts ++ us) = (between us).modifyHead (ts.flatMap FragmentToken.chars ++ ·) := by
  induction ts with
  | nil => cases hus : between us <;> simp [hus]
  | cons t ts ih =>
      obtain ⟨ht, hts⟩ := List.forall_mem_cons.mp h
      rw [List.cons_append, between, if_neg ht, ih hts]
      cases hus : between us <;> simp

end RecordMapper.Fragment
