import RecordMapper.Store.Procedure

/-! # What procedures do in a state -/

namespace RecordMapper.Procedure

variable {σ τ ε δ α β : Type}

@[simp] theorem runFrom_pure (a : α) (s : σ) :
    (pure a : Procedure σ ε α).runFrom s = (.ok a, s) := rfl

@[simp] theorem runFrom_throw (e : ε) (s : σ) :
    (throw e : Procedure σ ε α).runFrom s = (.error e, s) := rfl

@[simp] theorem runFrom_ofFunction (f : σ → Except ε α × σ) (s : σ) :
    (ofFunction f).runFrom s = f s := rfl

@[simp] theorem runFrom_change (f : σ → σ) (s : σ) :
    (change f : Procedure σ ε Unit).runFrom s = (.ok (), f s) := rfl

@[simp] theorem runFrom_ofExcept (r : Except ε α) (s : σ) :
    (ofExcept r).runFrom s = (r, s) := rfl

@[simp] theorem runFrom_read (f : σ → α) (s : σ) :
    (read f : Procedure σ ε α).runFrom s = (.ok (f s), s) := rfl

@[simp] theorem runFrom_adapt (f : ε → δ) (p : Procedure σ ε α) (s : σ) :
    (p.adapt f).runFrom s = ((p.runFrom s).1.mapError f, (p.runFrom s).2) := rfl

@[simp] theorem runFrom_attempt (p : Procedure σ ε α) (s : σ) :
    (p.attempt : Procedure σ δ (Except ε α)).runFrom s = (.ok (p.runFrom s).1, (p.runFrom s).2) :=
  rfl

@[simp] theorem runFrom_within (get : τ → σ) (set : σ → τ → τ) (p : Procedure σ ε α) (t : τ) :
    (p.within get set).runFrom t = ((p.runFrom (get t)).1, set (p.runFrom (get t)).2 t) := rfl

/-- The second procedure goes on in the state in which the first one succeeds. -/
theorem runFrom_bind (p : Procedure σ ε α) (f : α → Procedure σ ε β) (s : σ) :
    (p >>= f).runFrom s =
      match (p.runFrom s).1 with
      | .ok a => (f a).runFrom (p.runFrom s).2
      | .error e => (.error e, (p.runFrom s).2) := by
  change (ExceptT.bindCont f (p.runFrom s).1).run (p.runFrom s).2 = _
  cases (p.runFrom s).1 <;> rfl

/-! ## With which errors procedures fail -/

/-- A procedure fails in a state with an error. -/
def Fails (p : Procedure σ ε α) (s : σ) (e : ε) : Prop := (p.runFrom s).1 = .error e

section Fails

variable {p : Procedure σ ε α} {s t : σ} {e : ε}

theorem not_fails_of_runFrom {a : α} (h : p.runFrom s = (.ok a, t)) : ¬ Fails p s e := by
  rw [Fails, h]
  exact nofun

@[simp] theorem not_fails_pure (a : α) : ¬ Fails (pure a : Procedure σ ε α) s e := nofun

@[simp] theorem not_fails_read (f : σ → α) : ¬ Fails (read f) s e := nofun

@[simp] theorem not_fails_change (f : σ → σ) : ¬ Fails (change f) s e := nofun

@[simp] theorem not_fails_attempt {d : δ} :
    ¬ Fails (p.attempt : Procedure σ δ (Except ε α)) s d := nofun

@[simp] theorem fails_throw_iff {d : ε} : Fails (throw d : Procedure σ ε α) s e ↔ d = e := by
  rw [Fails, runFrom_throw, Except.error.injEq]

@[simp] theorem fails_ofExcept_iff {r : Except ε α} : Fails (ofExcept r) s e ↔ r = .error e :=
  Iff.rfl

/-- Two procedures fail as the first one does, or as the second one does in the state in which the
first one succeeds. -/
theorem fails_bind_iff {f : α → Procedure σ ε β} :
    Fails (p >>= f) s e ↔ Fails p s e ∨ ∃ a t, p.runFrom s = (.ok a, t) ∧ Fails (f a) t e := by
  unfold Fails
  rw [runFrom_bind]
  rcases p.runFrom s with ⟨d | a, t⟩
  · simp
  · constructor
    · exact fun h => .inr ⟨a, t, rfl, h⟩
    · rintro (h | ⟨b, u, hb, h⟩)
      · cases h
      · cases hb
        exact h

end Fails

/-! ## What procedures leave alone -/

/-- A procedure leaves what a view shows of the state as it is, whether it fails or not. -/
def Keeps (view : σ → τ) (p : Procedure σ ε α) : Prop := ∀ s, view (p.runFrom s).2 = view s

variable {view : σ → τ}

theorem keeps_pure (a : α) : Keeps view (pure a : Procedure σ ε α) := fun _ => rfl

theorem keeps_throw (e : ε) : Keeps view (throw e : Procedure σ ε α) := fun _ => rfl

theorem keeps_ofExcept (r : Except ε α) : Keeps view (ofExcept r) := fun _ => rfl

theorem keeps_read (f : σ → α) : Keeps view (read f : Procedure σ ε α) := fun _ => rfl

theorem Keeps.bind {p : Procedure σ ε α} {f : α → Procedure σ ε β} (hp : Keeps view p)
    (hf : ∀ a, Keeps view (f a)) : Keeps view (p >>= f) := by
  intro s
  rw [runFrom_bind]
  cases (p.runFrom s).1 with
  | ok a => exact (hf a _).trans (hp s)
  | error e => exact hp s

theorem Keeps.adapt {p : Procedure σ ε α} (hp : Keeps view p) (f : ε → δ) :
    Keeps view (p.adapt f) := hp

theorem Keeps.attempt {p : Procedure σ ε α} (hp : Keeps view p) :
    Keeps view (p.attempt : Procedure σ δ (Except ε α)) := hp

end RecordMapper.Procedure
