import Mathlib.Data.List.Nodup
import Mathlib.Data.String.Basic
import RecordMapper.Cast
import RecordMapper.Proofs.Json.Reading
import RecordMapper.Proofs.Outcome
import RecordMapper.Proofs.Value.Comparison

/-! # Maps in a store of texts

A store of texts keeps a map as JSON with its entries in the order of their names, and that text is
read back as the map with its entries so ordered at every level. Order is all that is lost, so that
equal maps are kept as one text. -/

namespace RecordMapper

open Json Text

namespace Value

/-- The values that a JSON text keeps: no number with a fraction, no integer with too many digits
and no name given twice. -/
inductive IsJson : Value → Prop where
  | null : IsJson .null
  | bool (b : Bool) : IsJson (.bool b)
  | int {i : Int} (h : digitCount i.natAbs ≤ Number.longestNumeral) : IsJson (.int i)
  | string (s : String) : IsJson (.string s)
  | list {xs : List Value} (h : ∀ x ∈ xs, IsJson x) : IsJson (.list xs)
  | map {es : List (String × Value)} (hnames : (es.map Prod.fst).Nodup)
      (h : ∀ e ∈ es, IsJson e.2) : IsJson (.map es)

/-- Values that are the same up to the order of the entries of maps. -/
inductive Same : Value → Value → Prop where
  | refl (v : Value) : Same v v
  | list {xs ys : List Value} (hlength : xs.length = ys.length)
      (h : ∀ {x y}, (x, y) ∈ xs.zip ys → Same x y) : Same (.list xs) (.list ys)
  | map {es fs : List (String × Value)}
      (hnames : ∀ name, name ∈ es.map Prod.fst ↔ name ∈ fs.map Prod.fst)
      (h : ∀ {name v w}, (name, v) ∈ es → (name, w) ∈ fs → Same v w) : Same (.map es) (.map fs)

/-- Entries in the order of their names. -/
def byName (es : List (String × Value)) : List (String × Value) :=
  es.mergeSort fun a b => a.1 ≤ b.1

mutual

/-- A value with the entries of every map in the order of their names. -/
def sorted : Value → Value
  | .list xs => .list (sortedItems xs)
  | .map es => .map (byName (sortedEntries es))
  | v => v

/-- The items of a list, sorted. -/
def sortedItems : List Value → List Value
  | [] => []
  | x :: xs => sorted x :: sortedItems xs

/-- The values of a map, sorted. -/
def sortedEntries : List (String × Value) → List (String × Value)
  | [] => []
  | (name, v) :: es => (name, sorted v) :: sortedEntries es

end

theorem sortedItems_eq_map (xs : List Value) : sortedItems xs = xs.map sorted := by
  induction xs with
  | nil => rfl
  | cons x xs ih => rw [sortedItems, ih, List.map_cons]

theorem sortedEntries_eq_map (es : List (String × Value)) :
    sortedEntries es = es.map fun e => (e.1, sorted e.2) := by
  induction es with
  | nil => rfl
  | cons e es ih => rw [sortedEntries, ih, List.map_cons]

theorem mem_byName {es : List (String × Value)} {e : String × Value} : e ∈ byName es ↔ e ∈ es :=
  (List.mergeSort_perm es _).mem_iff

/-- Sorting the values of entries and ordering the entries by name commute. -/
theorem byName_sortedEntries (es : List (String × Value)) :
    byName (sortedEntries es) = (byName es).map fun e => (e.1, sorted e.2) := by
  rw [sortedEntries_eq_map, byName, byName, List.map_mergeSort]
  intro a _ b _
  rfl

/-! ## Sorting loses the order of entries only -/

/-- An entry of a sorted map is an entry of the map with its value sorted. -/
theorem mem_byName_sortedEntries {es : List (String × Value)} {name : String} {w : Value} :
    (name, w) ∈ byName (sortedEntries es) ↔ ∃ v, (name, v) ∈ es ∧ sorted v = w := by
  rw [mem_byName, sortedEntries_eq_map, List.mem_map]
  constructor
  · rintro ⟨⟨name', v⟩, hv, heq⟩
    obtain ⟨rfl, hw⟩ := Prod.mk.inj heq
    exact ⟨v, hv, hw⟩
  · rintro ⟨v, hv, rfl⟩
    exact ⟨(name, v), hv, rfl⟩

theorem names_byName_sortedEntries (es : List (String × Value)) :
    ((byName (sortedEntries es)).map Prod.fst).Perm (es.map Prod.fst) := by
  rw [byName_sortedEntries, List.map_map]
  exact (List.mergeSort_perm es _).map _

theorem IsJson.sorted {v : Value} (h : v.IsJson) : v.sorted.IsJson := by
  induction h with
  | null => exact .null
  | bool b => exact .bool b
  | int h => exact .int h
  | string s => exact .string s
  | list h ih =>
      rw [Value.sorted, sortedItems_eq_map]
      refine .list fun y hy => ?_
      obtain ⟨x, hx, rfl⟩ := List.mem_map.mp hy
      exact ih x hx
  | @map es hnames h ih =>
      rw [Value.sorted]
      refine .map ((names_byName_sortedEntries es).nodup_iff.mpr hnames) fun e he => ?_
      obtain ⟨v, hv, hsorted⟩ := mem_byName_sortedEntries.mp he
      exact hsorted ▸ ih _ hv

/-- The value of an entry is determined by its name. -/
theorem eq_of_mem_of_mem {es : List (String × Value)} (hnames : (es.map Prod.fst).Nodup)
    {name : String} {v w : Value} (hv : (name, v) ∈ es) (hw : (name, w) ∈ es) : v = w :=
  Option.some.inj ((Row.find?_of_mem hnames hv).symm.trans (Row.find?_of_mem hnames hw))

theorem IsJson.sorted_same {v : Value} (h : v.IsJson) : v.sorted.Same v := by
  induction h with
  | list h ih =>
      rw [Value.sorted, sortedItems_eq_map]
      have hitems := List.forall₂_map_left_iff.mpr (List.forall₂_same.mpr ih)
      exact .list hitems.length_eq (List.forall₂_iff_zip.mp hitems).2
  | @map es hnames h ih =>
      rw [Value.sorted]
      refine .map (fun name => (names_byName_sortedEntries es).mem_iff) fun {name w v} hw hv => ?_
      obtain ⟨v', hv', rfl⟩ := mem_byName_sortedEntries.mp hw
      obtain rfl := eq_of_mem_of_mem hnames hv hv'
      exact ih _ hv
  | _ => exact .refl _

/-! ## The same values are equal -/

theorem IsJson.isRegular {v : Value} (h : v.IsJson) : v.isRegular = true := by
  induction h with
  | list h ih => exact allRegular_iff.mpr ih
  | map hnames h ih =>
      rw [Value.isRegular, Bool.and_eq_true, decide_eq_true_eq]
      exact ⟨hnames, entriesRegular_iff.mpr ih⟩
  | _ => rfl

theorem equalLists?_of_forall₂ {xs ys : List Value}
    (h : List.Forall₂ (fun x y => equal? x y = some true) xs ys) :
    equalLists? xs ys = some true := by
  induction h with
  | nil => rfl
  | cons hxy _ ih =>
      rw [equalLists?, hxy]
      exact ih

theorem equalEntries?_of_forall {es : List (String × Value)} {fs : Row Value}
    (h : ∀ e ∈ es, ∃ w, fs.find? e.1 = some w ∧ equal? e.2 w = some true) :
    equalEntries? es fs = some true := by
  induction es with
  | nil => rfl
  | cons e es ih =>
      obtain ⟨w, hw, heq⟩ := h e List.mem_cons_self
      rw [equalEntries?, hw]
      dsimp only
      rw [heq]
      exact ih fun d hd => h d (List.mem_cons_of_mem e hd)

/-- Values that are the same up to the order of entries are equal. -/
theorem Same.equal? {v w : Value} (h : v.Same w) (hv : v.IsJson) (hw : w.IsJson) :
    v.equal? w = some true := by
  induction h with
  | refl v => exact equal?_self hv.isRegular
  | @list xs ys hlength h ih =>
      rw [Value.equal?, if_pos hlength]
      refine equalLists?_of_forall₂ (List.forall₂_iff_zip.mpr ⟨hlength, fun {x y} hxy => ?_⟩)
      obtain ⟨hx, hy⟩ := List.of_mem_zip hxy
      cases hv with
      | list hxs =>
          cases hw with
          | list hys => exact ih hxy (hxs x hx) (hys y hy)
  | @map es fs hnames h ih =>
      cases hv with
      | map hes hvs =>
          cases hw with
          | map hfs hws =>
              have hperm : (es.map Prod.fst).Perm (fs.map Prod.fst) :=
                (List.perm_ext_iff_of_nodup hes hfs).mpr hnames
              have hlength : es.length = fs.length := by simpa using hperm.length_eq
              rw [Value.equal?, if_pos hlength]
              refine equalEntries?_of_forall fun e he => ?_
              obtain ⟨⟨_, w⟩, hw, rfl⟩ :=
                List.mem_map.mp ((hnames e.1).mp (List.mem_map_of_mem (f := Prod.fst) he))
              exact ⟨w, Row.find?_of_mem hfs hw, ih he hw (hvs e he) (hws _ hw)⟩

/-! ## The text of a value -/

/-- The JSON text of a value that has one. -/
def text (v : Value) : List Char := (write v).toOption.getD []

/-- The texts of the values of a map, by name. -/
def entryTexts (es : List (String × Value)) : List (String × List Char) :=
  es.map fun e => (e.1, e.2.text)

theorem names_entryTexts (es : List (String × Value)) :
    (entryTexts es).map Prod.fst = es.map Prod.fst := List.map_map

theorem mem_entryTexts {es : List (String × Value)} {name : String} {t : List Char} :
    (name, t) ∈ entryTexts es ↔ ∃ v, (name, v) ∈ es ∧ v.text = t := by
  simp [entryTexts, List.mem_map]

theorem writeItems_eq {xs : List Value} (h : ∀ x ∈ xs, write x = .ok x.text) :
    writeItems xs = .ok (xs.map text) := by
  induction xs with
  | nil => rfl
  | cons x xs ih =>
      rw [writeItems, h x List.mem_cons_self, ih fun y hy => h y (List.mem_cons_of_mem x hy)]
      rfl

theorem writeEntries_eq {es : List (String × Value)} (h : ∀ e ∈ es, write e.2 = .ok e.2.text) :
    writeEntries es = (entryTexts es).map fun e => (e.1, .ok e.2) := by
  induction es with
  | nil => rfl
  | cons e es ih =>
      rw [writeEntries, h e List.mem_cons_self, ih fun d hd => h d (List.mem_cons_of_mem e hd)]
      rfl

theorem allWritten_map_ok (ts : List (String × List Char)) :
    allWritten (ts.map fun e => (e.1, .ok e.2)) = .ok ts := by
  rw [allWritten, Outcome.mapM_eq_ok_iff, List.forall₂_map_left_iff, List.forall₂_same]
  exact fun e _ => rfl

/-- The texts of a map's entries are put in the order of the entries' names. -/
theorem sortEntries_entryTexts (es : List (String × Value)) :
    sortEntries (entryTexts es) = entryTexts (byName es) := by
  rw [sortEntries, byName, entryTexts, entryTexts, List.map_mergeSort]
  intro a _ b _
  rfl

/-- The entries of a map are written in the order of their names if each of them can be written. -/
theorem write_map {es : List (String × Value)} (h : ∀ e ∈ es, write e.2 = .ok e.2.text) :
    write (map es) =
      .ok ('\x7b' :: joined ((entryTexts (byName es)).map entryText) ++ ['\x7d']) := by
  have hsort : sortEntries ((entryTexts es).map fun e => (e.1, (.ok e.2 : Except WriteError _))) =
      (entryTexts (byName es)).map fun e => (e.1, .ok e.2) := by
    rw [← sortEntries_entryTexts, sortEntries, sortEntries, List.map_mergeSort]
    intro a _ b _
    rfl
  rw [write, writeEntries_eq h, hsort, allWritten_map_ok]
  rfl

theorem text_int {i : Int} (h : digitCount i.natAbs ≤ Number.longestNumeral) :
    (int i).text = intNumeral i := by
  rw [text, write, intText, if_pos h]
  rfl

theorem IsJson.write_eq {v : Value} (h : v.IsJson) : write v = .ok v.text := by
  induction h with
  | int hdigits => rw [text_int hdigits, write, intText, if_pos hdigits]
  | list h ih => simp [text, write, writeItems_eq ih, Except.map, Except.toOption]
  | map hnames h ih => simp [text, write_map ih, Except.toOption]
  | _ => rfl

theorem text_list {xs : List Value} (h : (list xs).IsJson) :
    (list xs).text = '[' :: joined (xs.map text) ++ [']'] := by
  cases h with
  | list h =>
      rw [text, write, writeItems_eq fun x hx => (h x hx).write_eq]
      rfl

theorem text_map {es : List (String × Value)} (h : (map es).IsJson) :
    (map es).text =
      '\x7b' :: joined ((entryTexts (byName es)).map entryText) ++ ['\x7d'] := by
  cases h with
  | map hnames h =>
      rw [text, write_map fun e he => (h e he).write_eq]
      rfl

/-- The text of a value is read as the value with its entries in order. -/
theorem IsJson.reads {v : Value} (h : v.IsJson) : Reads v.text v.sorted := by
  induction h with
  | null => exact .null
  | bool b => exact .bool b
  | int h =>
      rw [text_int h]
      exact .int h
  | string s => exact .string s
  | @list xs h ih =>
      rw [text_list (.list h), Value.sorted, sortedItems_eq_map]
      apply Reads.list
      rw [List.forall₂_map_left_iff, List.forall₂_map_right_iff, List.forall₂_same]
      exact ih
  | @map es hnames h ih =>
      rw [text_map (.map hnames h), Value.sorted]
      have hsorted := (names_byName_sortedEntries es).nodup_iff.mpr hnames
      rw [byName_sortedEntries] at hsorted ⊢
      refine Reads.map ?_ hsorted
      rw [entryTexts, List.forall₂_map_left_iff, List.forall₂_map_right_iff, List.forall₂_same]
      exact fun e he => ⟨rfl, ih e (mem_byName.mp he)⟩

/-! ## The same text -/

/-- Entries of different names have one order by name. -/
theorem sortEntries_eq_of_perm {ts us : List (String × List Char)} (h : ts.Perm us)
    (hnames : (ts.map Prod.fst).Nodup) : sortEntries ts = sortEntries us := by
  have hsorted : ∀ xs : List (String × List Char),
      (sortEntries xs).Pairwise fun a b => decide (a.1 ≤ b.1) = true := by
    intro xs
    refine List.pairwise_mergeSort (fun a b c hab hbc => ?_) (fun a b => ?_) xs
    · exact decide_eq_true ((of_decide_eq_true hab).trans (of_decide_eq_true hbc))
    · simpa using le_total a.1 b.1
  have hperm : (sortEntries ts).Perm (sortEntries us) :=
    (List.mergeSort_perm ts _).trans (h.trans (List.mergeSort_perm us _).symm)
  refine hperm.eq_of_pairwise (fun a b ha hb hab hba => ?_) (hsorted ts) (hsorted us)
  have hname : a.1 = b.1 := le_antisymm (of_decide_eq_true hab) (of_decide_eq_true hba)
  have hamem : a ∈ ts := List.mem_mergeSort.mp ha
  have hbmem : b ∈ ts := h.mem_iff.mpr (List.mem_mergeSort.mp hb)
  exact List.inj_on_of_nodup_map hnames hamem hbmem hname

/-- A map with the names and the texts of another one has its named texts. -/
theorem entryTexts_subset {es fs : List (String × Value)}
    (hnames : ∀ name, name ∈ es.map Prod.fst → name ∈ fs.map Prod.fst)
    (h : ∀ {name v w}, (name, v) ∈ es → (name, w) ∈ fs → v.text = w.text) :
    entryTexts es ⊆ entryTexts fs := by
  rintro ⟨name, t⟩ ht
  obtain ⟨v, hv, rfl⟩ := mem_entryTexts.mp ht
  obtain ⟨⟨_, w⟩, hw, rfl⟩ := List.mem_map.mp (hnames name (List.mem_map_of_mem (f := Prod.fst) hv))
  exact mem_entryTexts.mpr ⟨w, hw, (h hv hw).symm⟩

/-- Maps with the same names and the same texts have the same named texts in order. -/
theorem entryTexts_byName_eq {es fs : List (String × Value)} (hes : (es.map Prod.fst).Nodup)
    (hfs : (fs.map Prod.fst).Nodup)
    (hnames : ∀ name, name ∈ es.map Prod.fst ↔ name ∈ fs.map Prod.fst)
    (h : ∀ {name v w}, (name, v) ∈ es → (name, w) ∈ fs → v.text = w.text) :
    entryTexts (byName es) = entryTexts (byName fs) := by
  rw [← names_entryTexts] at hes hfs
  have hsub : entryTexts es ⊆ entryTexts fs :=
    entryTexts_subset (fun name => (hnames name).mp) h
  have hsup : entryTexts fs ⊆ entryTexts es :=
    entryTexts_subset (fun name => (hnames name).mpr) fun hw hv => (h hv hw).symm
  have hperm : (entryTexts es).Perm (entryTexts fs) :=
    (List.perm_ext_iff_of_nodup (List.Nodup.of_map Prod.fst hes)
      (List.Nodup.of_map Prod.fst hfs)).mpr fun t => ⟨@hsub t, @hsup t⟩
  rw [← sortEntries_entryTexts, ← sortEntries_entryTexts]
  exact sortEntries_eq_of_perm hperm hes

theorem Same.text_eq {v w : Value} (h : v.Same w) (hv : v.IsJson) (hw : w.IsJson) :
    v.text = w.text := by
  induction h with
  | refl v => rfl
  | @list xs ys hlength h ih =>
      have hitems : xs.map text = ys.map text := by
        have htexts : List.Forall₂ (fun x y => text x = text y) xs ys := by
          refine List.forall₂_iff_zip.mpr ⟨hlength, fun {x y} hxy => ?_⟩
          obtain ⟨hx, hy⟩ := List.of_mem_zip hxy
          cases hv with
          | list hxs =>
              cases hw with
              | list hys => exact ih hxy (hxs x hx) (hys y hy)
        rwa [← List.forall₂_eq_eq_eq, List.forall₂_map_left_iff, List.forall₂_map_right_iff]
      rw [text_list hv, text_list hw, hitems]
  | @map es fs hnames h ih =>
      rw [text_map hv, text_map hw]
      cases hv with
      | map hes hvs =>
          cases hw with
          | map hfs hws =>
              rw [entryTexts_byName_eq hes hfs hnames fun hv hw => ih hv hw (hvs _ hv) (hws _ hw)]

/-! ## Storing and loading -/

/-- The text that a store keeps for a map. -/
def stored (es : Row Value) : String := String.ofList (map es).text

theorem dump?_map {es : Row Value} (h : (map es).IsJson) :
    (map es).dump? = some (.string (stored es)) := by
  rw [dump?, dump, h.write_eq]
  rfl

/-- A map is kept as one text whatever the order of its entries, and that text is loaded as a map
that is the same up to the order of entries. -/
theorem load_dump_map {es : Row Value} (h : (map es).IsJson) :
    ∃ (text : String) (v : Value), (map es).dump? = some (.string text) ∧
      Kind.map.load (.string text) = .ok v ∧ v.IsJson ∧ v.Same (map es) ∧
      v.equal? (map es) = some true ∧
      ∀ fs : Row Value, (map fs).IsJson → (map fs).Same (map es) →
        (map fs).dump? = some (.string text) := by
  have hequal := h.sorted_same.equal? h.sorted h
  refine ⟨stored es, (map es).sorted, dump?_map h, ?_, h.sorted, h.sorted_same, hequal, ?_⟩
  · rw [Kind.load, Kind.loadJson, stored, String.toList_ofList, h.reads.readChars]
  · intro fs hfs hsame
    rw [dump?_map hfs, stored, stored, hsame.text_eq hfs h]

/-- A map with entries out of order, a character of two units, a line break, a negative number and
an empty list. -/
theorem load_dump_map_nested :
    let es : Row Value :=
      [("z", .list [.int (-7), .bool true, .list []]), ("a\n", .map [("", .string "\"𝄞")])]
    (map es).IsJson ∧ ∃ (text : String) (v : Value), (map es).dump? = some (.string text) ∧
      Kind.map.load (.string text) = .ok v ∧ v.Same (map es) := by
  have hint : digitCount (-7 : Int).natAbs ≤ Number.longestNumeral := by decide +kernel
  have hlist : (list [.int (-7), .bool true, .list []]).IsJson := by
    refine .list fun x hx => ?_
    simp only [List.mem_cons, List.not_mem_nil, or_false] at hx
    rcases hx with rfl | rfl | rfl
    exacts [.int hint, .bool true, .list nofun]
  have hmap : (map [("", .string "\"𝄞")]).IsJson :=
    .map (by decide) fun e he => List.mem_singleton.mp he ▸ .string "\"𝄞"
  have hentries : (map [("z", .list [.int (-7), .bool true, .list []]),
      ("a\n", .map [("", .string "\"𝄞")])]).IsJson := by
    refine .map (by decide) fun e he => ?_
    simp only [List.mem_cons, List.not_mem_nil, or_false] at he
    rcases he with rfl | rfl
    exacts [hlist, hmap]
  obtain ⟨text, v, hdump, hload, -, hsame, -, -⟩ := load_dump_map hentries
  exact ⟨hentries, text, v, hdump, hload, hsame⟩

end Value

end RecordMapper
