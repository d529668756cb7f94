import Mathlib.Data.List.Basic
import RecordMapper.Text.Blank
import RecordMapper.Text.Cut

/-! # Listed texts

A list of texts is taken apart at its commas again, and a text at its first dot. -/

namespace RecordMapper.Text

theorem splitAt_of_notMem {separator : Char} {cs : List Char} (h : separator ∉ cs) :
    splitAt separator cs = [cs] := by
  induction cs with
  | nil => rfl
  | cons c cs ih =>
      obtain ⟨hc, hcs⟩ := not_or.mp fun hmem => h (List.mem_cons.mpr hmem)
      rw [splitAt, if_neg (Ne.symm hc), ih hcs]

theorem splitAt_append {separator : Char} {cs : List Char} (h : separator ∉ cs) (rest : List Char) :
    splitAt separator (cs ++ separator :: rest) = cs :: splitAt separator rest := by
  induction cs with
  | nil => rw [List.nil_append, splitAt, if_pos rfl]
  | cons c cs ih =>
      obtain ⟨hc, hcs⟩ := not_or.mp fun hmem => h (List.mem_cons.mpr hmem)
      rw [List.cons_append, splitAt, if_neg (Ne.symm hc), ih hcs]

/-- A list is taken apart at its commas, and a blank is left before each text but the first. -/
theorem splitAt_intercalate {cs : List Char} {parts : List (List Char)}
    (h : ∀ p ∈ cs :: parts, ',' ∉ p) :
    splitAt ',' (", ".toList.intercalate (cs :: parts)) = cs :: parts.map fun p => ' ' :: p := by
  induction parts generalizing cs with
  | nil =>
      rw [List.intercalate_singleton]
      exact splitAt_of_notMem (h cs List.mem_cons_self)
  | cons p parts ih =>
      rw [List.forall_mem_cons] at h
      have hblank : ∀ q ∈ (' ' :: p) :: parts, ',' ∉ q := by
        simpa using h.2
      have hjoined : ", ".toList.intercalate (cs :: p :: parts) =
          cs ++ ',' :: ", ".toList.intercalate ((' ' :: p) :: parts) := by
        cases parts <;> simp [List.intercalate]
      rw [hjoined, splitAt_append h.1, ih hblank, List.map_cons]

theorem mem_of_mem_intercalate {separator : List Char} {parts : List (List Char)} {c : Char}
    (h : c ∈ separator.intercalate parts) : c ∈ separator ∨ ∃ p ∈ parts, c ∈ p := by
  induction parts with
  | nil => simp [List.intercalate] at h
  | cons p parts ih =>
      cases parts with
      | nil => exact .inr ⟨p, List.mem_cons_self, by simpa using h⟩
      | cons q parts =>
          have hparts : c ∈ p ∨ c ∈ separator ∨ c ∈ separator.intercalate (q :: parts) := by
            simpa [List.intercalate] using h
          rcases hparts with hc | hc | hc
          · exact .inr ⟨p, List.mem_cons_self, hc⟩
          · exact .inl hc
          · refine (ih hc).imp_right fun ⟨r, hr, hcr⟩ => ⟨r, List.mem_cons_of_mem p hr, hcr⟩

theorem intercalate_ne_nil {cs : List Char} (h : cs ≠ []) (separator : List Char)
    (parts : List (List Char)) : separator.intercalate (cs :: parts) ≠ [] := by
  cases parts <;> simp [List.intercalate, h]

theorem trim_of_forall_not_isBlank {cs : List Char} (h : ∀ c ∈ cs, isBlank c = false) :
    trim cs = cs := by
  have hkept : ∀ ds : List Char, (∀ c ∈ ds, isBlank c = false) → ds.dropWhile isBlank = ds := by
    intro ds hds
    cases ds with
    | nil => rfl
    | cons d ds => exact List.dropWhile_cons_of_neg (by simp [hds d List.mem_cons_self])
  rw [trim, hkept cs h, hkept cs.reverse (by simpa using h), List.reverse_reverse]

theorem trim_cons_of_isBlank {c : Char} (h : isBlank c = true) (cs : List Char) :
    trim (c :: cs) = trim cs := by
  rw [trim, List.dropWhile_cons_of_pos h, trim]

/-- A list of texts without commas and blanks is read back. -/
theorem map_trim_splitAt_intercalate {parts : List (List Char)} (hne : parts ≠ [])
    (hcomma : ∀ p ∈ parts, ',' ∉ p) (hblank : ∀ p ∈ parts, ∀ c ∈ p, isBlank c = false) :
    (splitAt ',' (", ".toList.intercalate parts)).map trim = parts := by
  have htrim : ∀ p ∈ parts, trim p = p := fun p hp => trim_of_forall_not_isBlank (hblank p hp)
  obtain ⟨cs, parts, rfl⟩ := List.exists_cons_of_ne_nil hne
  rw [List.forall_mem_cons] at htrim
  rw [splitAt_intercalate hcomma, List.map_cons, htrim.1, List.map_map]
  congr 1
  refine (List.map_congr_left fun p hp => ?_).trans (List.map_id parts)
  have hspace : isBlank ' ' = true := by decide
  rw [Function.comp_apply, trim_cons_of_isBlank hspace, htrim.2 p hp, id]

theorem forall_bne_of_notMem {separator : Char} {cs : List Char} (h : separator ∉ cs) :
    ∀ c ∈ cs, (c != separator) = true := by
  intro c hc
  have hne : c ≠ separator := fun heq => h (heq ▸ hc)
  simpa using hne

theorem before_append {separator : Char} {cs : List Char} (h : separator ∉ cs) (rest : List Char) :
    before separator (cs ++ separator :: rest) = cs := by
  rw [before, List.takeWhile_append_of_pos (forall_bne_of_notMem h),
    List.takeWhile_cons_of_neg (by simp), List.append_nil]

theorem after_append {separator : Char} {cs : List Char} (h : separator ∉ cs) (rest : List Char) :
    after separator (cs ++ separator :: rest) = rest := by
  rw [after, List.dropWhile_append_of_pos (forall_bne_of_notMem h),
    List.dropWhile_cons_of_neg (by simp)]

theorem afterStart?_append (start rest : List Char) :
    afterStart? start (start ++ rest) = some rest := by
  induction start with
  | nil => rfl
  | cons c start ih => rw [List.cons_append, afterStart?, if_pos rfl, ih]

/-- One line after a mark is all that stands after it. -/
theorem lineAfter?_append {mark line : List Char} (hmark : mark ≠ []) (hline : line ≠ [])
    (hone : '\n' ∉ line) : lineAfter? mark (mark ++ line) = some line := by
  have hother := forall_bne_of_notMem hone
  have htake : before '\n' line = line := by
    rw [before, ← List.append_nil line, List.takeWhile_append_of_pos hother]
    rfl
  have hdrop : line.dropWhile (· != '\n') = [] := by
    rw [← List.append_nil line, List.dropWhile_append_of_pos hother]
    rfl
  have hwhole : wholeLine? line = some line := by
    rw [wholeLine?, htake, hdrop]
    simp [hline]
  obtain ⟨m, mark, rfl⟩ := List.exists_cons_of_ne_nil hmark
  rw [List.cons_append, lineAfter?, ← List.cons_append, afterStart?_append, Option.bind_some,
    hwhole]

end RecordMapper.Text
