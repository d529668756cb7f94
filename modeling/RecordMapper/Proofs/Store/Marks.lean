import RecordMapper.Proofs.Store.Sqlite

/-! # Marked contents

What the statements that control transactions do on a connection: they mark the contents, and take
them back to a mark. -/

namespace RecordMapper

variable {σ δ : Type}

namespace Connection

/-- A statement without values succeeds, and what is known of the state after it. -/
def Does (c : Connection σ) (text : String) (s : σ) (P : σ → Prop) : Prop :=
  (∃ cursor, (c.execute text [] s).1.result = .ok cursor) ∧ P (c.execute text [] s).2

/-- A statement without values fails, and what is known of the state after it. -/
def Refuses (c : Connection σ) (text : String) (s : σ) (P : σ → Prop) : Prop :=
  (∃ e, (c.execute text [] s).1.result = .error e) ∧ P (c.execute text [] s).2

/-- The statements that control transactions mark the contents and take them back. The marks are the
open transaction, which has no name, and the savepoints within it, the innermost one first; each has
the contents that it was made with. A mark that is returned to stays, and one that is released goes
with those that were made after it. To keep the contents may be refused, and the transaction stays
open then. -/
structure Marks (c : Connection σ) (contents : σ → δ) (marks : σ → List (Option String × δ)) :
    Prop where
  begins : ∀ s, marks s = [] →
    c.Does "BEGIN" s fun t => contents t = contents s ∧ marks t = [(none, contents s)]
  savepoints : ∀ n s, marks s ≠ [] →
    c.Does s!"SAVEPOINT {Sqlite.savepoint n}" s fun t => contents t = contents s ∧
      marks t = (some (Sqlite.savepoint n), contents s) :: marks s
  returns : ∀ n s above saved below,
    marks s = above ++ (some (Sqlite.savepoint n), saved) :: below →
    (∀ m ∈ above, m.1 ≠ some (Sqlite.savepoint n)) →
    c.Does s!"ROLLBACK TO SAVEPOINT {Sqlite.savepoint n}" s fun t => contents t = saved ∧
      marks t = (some (Sqlite.savepoint n), saved) :: below
  releases : ∀ n s above saved below,
    marks s = above ++ (some (Sqlite.savepoint n), saved) :: below →
    (∀ m ∈ above, m.1 ≠ some (Sqlite.savepoint n)) → below ≠ [] →
    c.Does s!"RELEASE SAVEPOINT {Sqlite.savepoint n}" s fun t => contents t = contents s ∧
      marks t = below
  rollsBack : ∀ s above saved, marks s = above ++ [(none, saved)] →
    c.Does "ROLLBACK" s fun t => contents t = saved ∧ marks t = []
  commits : ∀ s, marks s ≠ [] →
    c.Does "COMMIT" s (fun t => contents t = contents s ∧ marks t = []) ∨
      c.Refuses "COMMIT" s fun t => contents t = contents s ∧ marks t = marks s
  isOpen : ∀ s, c.inTransaction s = !(marks s).isEmpty
  looks : ∀ text, Sqlite.IsLookup text → ∀ s,
    contents (c.execute text [] s).2 = contents s ∧ marks (c.execute text [] s).2 = marks s
  watches : ∀ interval question s,
    contents (c.watch interval question s) = contents s ∧
      marks (c.watch interval question s) = marks s

/-- A statement that is none of control: it may change the contents and nothing else. -/
def Ordinary (c : Connection σ) (marks : σ → List (Option String × δ)) (st : Statement) : Prop :=
  ∀ parameters s, marks (c.execute st.text parameters s).2 = marks s

end Connection

namespace Sqlite

/-- The mark of a block within as many others. -/
def markName (depth : Nat) : Option String := if depth = 0 then none else some (savepoint depth)

/-- The marks of blocks within each other, the innermost one first. -/
def markNames : Nat → List (Option String)
  | 0 => []
  | depth + 1 => markName depth :: markNames depth

theorem length_markNames (depth : Nat) : (markNames depth).length = depth := by
  induction depth with
  | zero => rfl
  | succ depth ih => rw [markNames, List.length_cons, ih]

theorem ne_nil_of_map_eq_markNames {depth : Nat} {below : List (Option String × δ)}
    (h : below.map Prod.fst = markNames depth) (hpos : depth ≠ 0) : below ≠ [] := by
  rintro rfl
  rw [← length_markNames depth, ← h] at hpos
  exact hpos rfl

theorem savepoint_injective {m n : Nat} (h : savepoint m = savepoint n) : m = n := by
  have hname : "\"typed_records_" ++ toString m ++ "\"" =
      "\"typed_records_" ++ toString n ++ "\"" := h
  have hdigits : Nat.toDigits 10 m = Nat.toDigits 10 n := by
    simpa using congrArg String.toList hname
  rw [← Nat.ofDigitChars_ten_toDigits (n := m), hdigits, Nat.ofDigitChars_ten_toDigits]

theorem markName_injective {m n : Nat} (h : markName m = markName n) : m = n := by
  unfold markName at h
  split at h <;> split at h
  · omega
  · cases h
  · cases h
  · exact savepoint_injective (Option.some.inj h)

theorem mem_markNames {name : Option String} {depth : Nat} (h : name ∈ markNames depth) :
    ∃ n < depth, name = markName n := by
  induction depth with
  | zero => cases h
  | succ depth ih =>
      rcases List.mem_cons.mp h with rfl | h
      · exact ⟨depth, by omega, rfl⟩
      · obtain ⟨n, hn, rfl⟩ := ih h
        exact ⟨n, by omega, rfl⟩

theorem nodup_markNames (depth : Nat) : (markNames depth).Nodup := by
  induction depth with
  | zero => exact .nil
  | succ depth ih =>
      refine List.nodup_cons.mpr ⟨fun h => ?_, ih⟩
      obtain ⟨n, hn, hname⟩ := mem_markNames h
      have hsame := markName_injective hname
      omega

end Sqlite

end RecordMapper
