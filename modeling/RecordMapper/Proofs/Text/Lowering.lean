import RecordMapper.Text.Case

/-! # What the small form of a character depends on

Only a capital sigma looks at its neighbours, and at no more of them than the first one with a say
on either side. So a text can change elsewhere, and the small forms of its characters stay. -/

namespace RecordMapper.Text

theorem casedNext_cons_of_ignorable {c : Char} {cs : List Char}
    (h : caseIgnorableRanges.contains c = true) : casedNext (c :: cs) = casedNext cs := by
  rw [casedNext, List.find?_cons_of_neg (by simpa using h)]
  rfl

theorem casedNext_cons_of_not_ignorable {c : Char} {cs : List Char}
    (h : caseIgnorableRanges.contains c = false) :
    casedNext (c :: cs) = casedRanges.contains c := by
  rw [casedNext, List.find?_cons_of_pos (by simpa using h)]

/-- Neighbours that decide alike still do with the same character in front of them. -/
theorem casedNext_cons_congr {c : Char} {cs ds : List Char} (h : casedNext cs = casedNext ds) :
    casedNext (c :: cs) = casedNext (c :: ds) := by
  by_cases hc : caseIgnorableRanges.contains c = true
  · rw [casedNext_cons_of_ignorable hc, casedNext_cons_of_ignorable hc, h]
  · rw [Bool.not_eq_true] at hc
    rw [casedNext_cons_of_not_ignorable hc, casedNext_cons_of_not_ignorable hc]

theorem lowerChar_of_ascii {c : Char} (h : c.toNat < 0x80) (before after : List Char) :
    lowerChar before c after = [c.toLower] := by
  rw [lowerChar, if_pos h]

theorem lowerChar_congr {before before' after after' : List Char} {c : Char}
    (hbefore : casedNext before = casedNext before')
    (hafter : c = 'Σ' → casedNext after = casedNext after') :
    lowerChar before c after = lowerChar before' c after' := by
  by_cases hc : c = 'Σ'
  · simp only [lowerChar, hbefore, hafter hc]
  · simp only [lowerChar, if_neg hc]

end RecordMapper.Text
