import RecordMapper.Text.Cut

/-! # Names of Korean syllables

A syllable is named by the letters of its two or three sounds. -/

namespace RecordMapper.Text.CharacterName

/-- The first sounds; a syllable can do without one. -/
def leadingSounds : List String :=
  ["G", "GG", "N", "D", "DD", "R", "M", "B", "BB", "S", "SS", "", "J", "JJ", "C", "K", "T", "P",
   "H"]

/-- The vowels. -/
def vowelSounds : List String :=
  ["A", "AE", "YA", "YAE", "EO", "E", "YEO", "YE", "O", "WA", "WAE", "OE", "YO", "U", "WEO", "WE",
   "WI", "YU", "EU", "YI", "I"]

/-- The last sounds; a syllable can do without one. -/
def trailingSounds : List String :=
  ["", "G", "GG", "GS", "N", "NJ", "NH", "D", "L", "LG", "LM", "LB", "LS", "LT", "LP", "LH", "M",
   "B", "BS", "S", "SS", "NG", "J", "C", "K", "T", "P", "H"]

/-- The longest sound that a name begins with, as its place in the list, and how the name goes
on. -/
def longestSound? (sounds : List String) (name : List Char) : Option (Nat × List Char) :=
  (sounds.zipIdx.filterMap fun s => (afterStart? s.1.toList name).map (s.2, ·)).foldl
    (fun best s =>
      match best with
      | none => some s
      | some b => if s.2.length < b.2.length then some s else some b) none

/-- The code point of the syllable that a text of sounds names. -/
def syllable? (name : List Char) : Option Nat := do
  let (leading, rest) ← longestSound? leadingSounds name
  let (vowel, rest) ← longestSound? vowelSounds rest
  let (trailing, rest) ← longestSound? trailingSounds rest
  if rest.isEmpty then some (0xac00 + (leading * 21 + vowel) * 28 + trailing) else none

end RecordMapper.Text.CharacterName
