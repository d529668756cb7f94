import Mathlib
import RecordMapper.Proofs.Fragment.Scanning

/-! # Fragments put together again

Splitting loses nothing. A slot is written as a question mark, and a text as it is but for the
question marks outside its quotes, which get their backslashes back. Every text begins and ends
outside quotes, so the quotes can be told from the text alone. -/

namespace RecordMapper.Fragment

open Text

/-! ## Written forms -/

/-- Text of a fragment as it was written, by the quote that is open before it: a question mark
outside quotes has a backslash in front. -/
def escaped (quote : Option Char) : List Char → List Char
  | [] => []
  | c :: cs =>
    if c = '?' ∧ quote = none then '\\' :: c :: escaped quote cs
    else c :: escaped (quoteAfter quote c) cs

namespace Part

/-- A part as it was written. -/
def written : Part → List Char
  | .text chars => escaped none chars
  | .slot => ['?']

end Part

/-- A part as it was written, whatever its number. -/
def NumberedPart.written (p : NumberedPart) : List Char := p.plain.written

theorem escaped_append (quote : Option Char) (cs ds : List Char) :
    escaped quote (cs ++ ds) = escaped quote cs ++ escaped (quoteAtEnd quote cs) ds := by
  induction cs generalizing quote with
  | nil => rfl
  | cons c cs ih =>
      rw [List.cons_append, escaped, escaped, quoteAtEnd_cons]
      split_ifs with hmark
      · obtain ⟨rfl, rfl⟩ := hmark
        rw [ih]
        rfl
      · rw [ih]
        rfl

theorem escaped_of_notMem {cs : List Char} (h : '?' ∉ cs) (quote : Option Char) :
    escaped quote cs = cs := by
  induction cs generalizing quote with
  | nil => rfl
  | cons c cs ih =>
      obtain ⟨hc, hcs⟩ := List.ne_and_not_mem_of_not_mem_cons h
      rw [escaped, if_neg fun hmark => hc hmark.1.symm, ih hcs]

/-- A quoted region is written as it is. -/
theorem escaped_quoted {quote : Char} (hquote : quote = '\'' ∨ quote = '"') {body : List Char}
    (h : Quoted quote body) : escaped (some quote) body = body := by
  have hmark : quote ≠ '?' := by rcases hquote with rfl | rfl <;> decide
  induction h with
  | close => simp [escaped]
  | other hc _ ih => simp [escaped, quoteAfter, hc, ih]
  | doubled _ ih => simp [escaped, quoteAfter, hmark, hquote.symm, ih]

/-! ## Tokens -/

/-- A token as it was written. -/
def tokenWritten (t : FragmentToken) : List Char :=
  if t.kind = .slot then ['?'] else escaped none t.chars

/-- A token is written as the characters that it was read from. -/
theorem tokenWritten_content {kind : FragmentTokenKind} {lexeme : List Char}
    (h : Form kind lexeme) (place : Nat) :
    tokenWritten ⟨kind, content kind lexeme, place⟩ = lexeme := by
  cases h with
  | string hbody =>
      simp [tokenWritten, content, escaped, quoteAfter, escaped_quoted (.inl rfl) hbody]
  | quotedName hbody =>
      simp [tokenWritten, content, escaped, quoteAfter, escaped_quoted (.inr rfl) hbody]
  | plain _ hplain =>
      have hmark : '?' ∉ lexeme := fun hmem => by simpa [isPlain] using hplain '?' hmem
      simp [tokenWritten, content, escaped_of_notMem hmark]
  | _ => rfl

/-- The tokens of a text are written as the text, and each of them closes the quotes that it
opens. -/
theorem tokenWritten_of_lexes {place : Nat} {cs : List Char} {ts : List FragmentToken}
    (h : Lexes place cs (.ok ts)) :
    ts.flatMap tokenWritten = cs ∧ ∀ t ∈ ts, quoteAtEnd none t.chars = none := by
  generalize hr : (Except.ok ts : Except OpenQuote (List FragmentToken)) = r at h
  induction h generalizing ts with
  | done => cases hr; exact ⟨rfl, nofun⟩
  | @token place kind lexeme cs _ htakes _ ih =>
      obtain ⟨us, rfl, rfl⟩ := Outcome.map_eq_ok_iff.mp hr.symm
      obtain ⟨hwritten, hclosed⟩ := ih rfl
      refine ⟨?_, List.forall_mem_cons.mpr ⟨?_, hclosed⟩⟩
      · rw [List.flatMap_cons, tokenWritten_content htakes.form, hwritten]
      · dsimp only [content]
        split
        · rfl
        · exact (signs_token htakes place).1
  | stuck => cases hr

/-! ## Parts -/

theorem written_consText {cs : List Char} (h : quoteAtEnd none cs = none) (ps : List Part) :
    (consText cs ps).flatMap Part.written = escaped none cs ++ ps.flatMap Part.written := by
  cases ps with
  | nil => rfl
  | cons p ps =>
      cases p with
      | slot => rfl
      | text more => simp [consText, Part.written, escaped_append, h]

/-- Joined tokens are written as the tokens are. -/
theorem written_join {ts : List FragmentToken} (h : ∀ t ∈ ts, quoteAtEnd none t.chars = none) :
    (join ts).flatMap Part.written = ts.flatMap tokenWritten := by
  induction ts with
  | nil => rfl
  | cons t ts ih =>
      obtain ⟨ht, hts⟩ := List.forall_mem_cons.mp h
      rw [join, List.flatMap_cons, tokenWritten, ← ih hts]
      split
      · rfl
      · exact written_consText ht (join ts)

/-- The parts of a fragment are written as the fragment. -/
theorem written_split {text : String} {ps : List Part} (h : split text = .ok ps) :
    ps.flatMap Part.written = text.toList := by
  obtain ⟨ts, hts, rfl⟩ := Outcome.map_eq_ok_iff.mp h
  obtain ⟨hwritten, hclosed⟩ := tokenWritten_of_lexes (lexes_iff.mpr hts)
  rw [written_join hclosed, hwritten]

theorem written_of_numberedParts {text : String} {ps : List NumberedPart}
    (h : numberedParts text = .ok ps) : String.ofList (ps.flatMap NumberedPart.written) = text := by
  obtain ⟨parts, hparts, rfl⟩ := Outcome.map_eq_ok_iff.mp h
  have hplain : (number 0 parts).flatMap NumberedPart.written = parts.flatMap Part.written := by
    rw [← map_plain_number 0 parts, List.flatMap_map, map_plain_number]
    rfl
  rw [hplain, written_split hparts, String.ofList_toList]

/-- Splitting a fragment loses nothing: written again and put together, its parts are the fragment,
with every slot as a question mark and every other question mark outside quotes behind a backslash.
So no other fragment has the same parts. -/
theorem written_numberedParts {text : String} {ps : List NumberedPart}
    (h : numberedParts text = .ok ps) :
    String.ofList (ps.flatMap NumberedPart.written) = text ∧
      ∀ other, numberedParts other = .ok ps → other = text := by
  have hwritten := written_of_numberedParts h
  exact ⟨hwritten, fun other hother => (written_of_numberedParts hother).symm.trans hwritten⟩

/-- A backslash that stands for itself, an escaped question mark behind two backslashes, question
marks within quotes of both kinds and a quote written twice. -/
theorem written_numberedParts_quotes :
    let text := "a \\ b \\\\? 'it''s?' = ? AND \"c?\" \\? ?"
    let ps : List NumberedPart := [.text "a \\ b \\? 'it''s?' = ".toList, .slot 0,
      .text " AND \"c?\" ? ".toList, .slot 1]
    numberedParts text = .ok ps ∧ String.ofList (ps.flatMap NumberedPart.written) = text := by
  intro text ps
  have hparts : numberedParts text = .ok ps := by cbv
  exact ⟨hparts, (written_numberedParts hparts).1⟩

end RecordMapper.Fragment
