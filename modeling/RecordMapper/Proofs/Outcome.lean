import Mathlib.Data.List.Forall2

/-! # Outcomes

When a chain of steps that may fail succeeds, and when two such chains agree. -/

namespace RecordMapper.Outcome

variable {ε α β γ δ : Type}

/-! ## Success of a chain -/

@[simp] theorem bind_eq_ok_iff {x : Except ε α} {f : α → Except ε β} {b : β} :
    (x >>= f) = .ok b ↔ ∃ a, x = .ok a ∧ f a = .ok b := by
  cases x <;> simp [bind, Except.bind]

@[simp] theorem pure_eq_ok_iff {a b : α} : (pure a : Except ε α) = .ok b ↔ a = b := by
  simp [pure, Except.pure]

@[simp] theorem throw_eq_ok_iff {e : ε} {b : α} : (throw e : Except ε α) = .ok b ↔ False := by
  simp [throw, throwThe, MonadExceptOf.throw]

@[simp] theorem map_eq_ok_iff {x : Except ε α} {f : α → β} {b : β} :
    x.map f = .ok b ↔ ∃ a, x = .ok a ∧ f a = b := by
  cases x <;> simp [Except.map]

theorem map_eq_error_iff {x : Except ε α} {f : α → β} {e : ε} :
    x.map f = .error e ↔ x = .error e := by
  cases x <;> simp [Except.map]

@[simp] theorem functorMap_eq_ok_iff {x : Except ε α} {f : α → β} {b : β} :
    f <$> x = .ok b ↔ ∃ a, x = .ok a ∧ f a = b := map_eq_ok_iff

@[simp] theorem mapError_eq_ok_iff {x : Except ε α} {f : ε → δ} {a : α} :
    x.mapError f = .ok a ↔ x = .ok a := by
  cases x <;> simp [Except.mapError]

theorem toOption_eq_some_iff {x : Except ε α} {a : α} : x.toOption = some a ↔ x = .ok a := by
  cases x <;> simp [Except.toOption]

/-- A step is taken on each item, and all of them succeed. -/
theorem mapM_eq_ok_iff {f : α → Except ε β} {xs : List α} {ys : List β} :
    xs.mapM f = .ok ys ↔ List.Forall₂ (fun x y => f x = .ok y) xs ys := by
  induction xs generalizing ys with
  | nil => cases ys <;> simp
  | cons x xs ih =>
      simp only [List.mapM_cons, bind_eq_ok_iff, pure_eq_ok_iff, ih]
      constructor
      · rintro ⟨y, hy, zs, hzs, rfl⟩
        exact .cons hy hzs
      · intro h
        cases h with
        | cons hy hzs => exact ⟨_, hy, _, hzs, rfl⟩

/-- Whether all steps succeed, and with what, can be told from what each of them gives. -/
theorem toOption_mapM (f : α → Except ε β) (xs : List α) :
    (xs.mapM f).toOption = xs.mapM fun x => (f x).toOption := by
  induction xs with
  | nil => rfl
  | cons x xs ih =>
      rw [List.mapM_cons, List.mapM_cons, ← ih]
      cases f x with
      | error e => rfl
      | ok y => cases xs.mapM f <;> rfl

/-- Steps that give something or nothing give nothing as soon as one does. -/
theorem mapM_eq_none_iff {f : α → Option β} {xs : List α} :
    xs.mapM f = none ↔ ∃ x ∈ xs, f x = none := by
  induction xs with
  | nil => simp
  | cons x xs ih =>
      rw [List.mapM_cons]
      cases hx : f x with
      | none => simp [hx]
      | some y =>
          cases hxs : xs.mapM f with
          | none => simp [hx, ih.mp hxs]
          | some ys => simp_all

/-- What the result of every step has, all results have. -/
theorem forall_of_mapM {P : β → Prop} {f : α → Except ε β} {xs : List α} {ys : List β}
    (h : xs.mapM f = .ok ys) (hf : ∀ x ∈ xs, ∀ y, f x = .ok y → P y) : ∀ y ∈ ys, P y := by
  rw [mapM_eq_ok_iff] at h
  induction h with
  | nil => simp
  | cons hxy _ ih =>
      obtain ⟨hx, hxs⟩ := List.forall_mem_cons.mp hf
      exact List.forall_mem_cons.mpr ⟨hx _ hxy, ih hxs⟩

/-- What every step on an item keeps, a whole run keeps. -/
theorem of_foldlM {P : α → Prop} {f : α → β → Except ε α} {xs : List β} {a b : α}
    (h : xs.foldlM f a = .ok b) (hstep : ∀ a x b, x ∈ xs → f a x = .ok b → P a → P b)
    (ha : P a) : P b := by
  induction xs generalizing a with
  | nil =>
      rw [List.foldlM_nil, pure_eq_ok_iff] at h
      rwa [← h]
  | cons x xs ih =>
      rw [List.foldlM_cons, bind_eq_ok_iff] at h
      obtain ⟨c, hc, hb⟩ := h
      exact ih hb (fun a y b hy => hstep a y b (List.mem_cons_of_mem x hy))
        (hstep a x c List.mem_cons_self hc ha)

/-- The first item is the one, or the others have one and the first item is passed. -/
theorem exists_first_cons_iff {P Q : β → Prop} {x : β} {xs : List β} :
    (∃ front y back, x :: xs = front ++ y :: back ∧ (∀ z ∈ front, P z) ∧ Q y) ↔
      Q x ∨ P x ∧ ∃ front y back, xs = front ++ y :: back ∧ (∀ z ∈ front, P z) ∧ Q y := by
  constructor
  · rintro ⟨front, y, back, hxs, hfront, hy⟩
    cases front with
    | nil =>
        obtain ⟨rfl, -⟩ := List.cons.inj hxs
        exact .inl hy
    | cons z front =>
        obtain ⟨rfl, rfl⟩ := List.cons.inj hxs
        obtain ⟨hx, hfront⟩ := List.forall_mem_cons.mp hfront
        exact .inr ⟨hx, front, y, back, rfl, hfront, hy⟩
  · rintro (hx | ⟨hx, front, y, back, rfl, hfront, hy⟩)
    · exact ⟨[], x, xs, rfl, nofun, hx⟩
    · exact ⟨x :: front, y, back, rfl, List.forall_mem_cons.mpr ⟨hx, hfront⟩, hy⟩

/-- A run fails at the first item whose step fails, where a step on an item fails or succeeds
whatever was done before. -/
theorem foldlM_eq_error_iff {I : α → Prop} {R : β → ε → Prop} {f : α → β → Except ε α} {xs : List β}
    (herror : ∀ a, I a → ∀ x ∈ xs, ∀ e, f a x = .error e ↔ R x e)
    (hok : ∀ a, I a → ∀ x ∈ xs, ∀ b, f a x = .ok b → I b) {a : α} (ha : I a) {e : ε} :
    xs.foldlM f a = .error e ↔
      ∃ front x back, xs = front ++ x :: back ∧ (∀ y ∈ front, ∀ d, ¬ R y d) ∧ R x e := by
  induction xs generalizing a with
  | nil =>
      refine iff_of_false nofun ?_
      rintro ⟨front, x, back, hxs, -⟩
      simp at hxs
  | cons x xs ih =>
      have hx := herror a ha x List.mem_cons_self
      rw [List.foldlM_cons, exists_first_cons_iff, ← hx e]
      cases hstep : f a x with
      | error d =>
          have hd : R x d := (hx d).mp hstep
          rw [or_iff_left fun h => h.1 d hd]
          exact ⟨fun h => congrArg _ (Except.error.inj h), fun h => congrArg _ (Except.error.inj h)⟩
      | ok b =>
          have hnone : ∀ d, ¬ R x d := fun d hd => by
            rw [(hx d).mpr hd] at hstep
            cases hstep
          have hb : I b := hok a ha x List.mem_cons_self b hstep
          rw [or_iff_right nofun, and_iff_right hnone]
          exact ih (fun a ha y hy => herror a ha y (List.mem_cons_of_mem x hy))
            (fun a ha y hy => hok a ha y (List.mem_cons_of_mem x hy)) hb

/-- There is a result. -/
def Succeeds (x : Except ε α) : Prop := ∃ a, x = .ok a

@[simp] theorem succeeds_ok (a : α) : Succeeds (.ok a : Except ε α) := ⟨a, rfl⟩

@[simp] theorem succeeds_pure (a : α) : Succeeds (pure a : Except ε α) := ⟨a, rfl⟩

@[simp] theorem not_succeeds_error (e : ε) : ¬ Succeeds (.error e : Except ε α) := by
  simp [Succeeds]

@[simp] theorem not_succeeds_throw (e : ε) : ¬ Succeeds (throw e : Except ε α) := by
  simp [Succeeds]

theorem succeeds_bind_iff {x : Except ε α} {f : α → Except ε β} :
    Succeeds (x >>= f) ↔ ∃ a, x = .ok a ∧ Succeeds (f a) := by
  simp only [Succeeds, bind_eq_ok_iff]
  exact exists_comm.trans (exists_congr fun a => exists_and_left)

/-- A chain whose end does not depend on the first result. -/
theorem succeeds_bind_iff_and {x : Except ε α} {f : α → Except ε β} {P : Prop}
    (h : ∀ a, x = .ok a → (Succeeds (f a) ↔ P)) : Succeeds (x >>= f) ↔ Succeeds x ∧ P := by
  rw [succeeds_bind_iff]
  constructor
  · rintro ⟨a, ha, hf⟩
    exact ⟨⟨a, ha⟩, (h a ha).mp hf⟩
  · rintro ⟨⟨a, ha⟩, hp⟩
    exact ⟨a, ha, (h a ha).mpr hp⟩

theorem succeeds_bind_pure_iff {x : Except ε α} {f : α → β} :
    Succeeds (x >>= fun a => pure (f a)) ↔ Succeeds x := by
  simp [Succeeds]

theorem succeeds_mapM_iff {f : α → Except ε β} {xs : List α} :
    Succeeds (xs.mapM f) ↔ ∀ x ∈ xs, Succeeds (f x) := by
  induction xs with
  | nil => simp
  | cons x xs ih =>
      rw [List.mapM_cons, List.forall_mem_cons, ← ih]
      exact succeeds_bind_iff_and fun y _ => succeeds_bind_pure_iff

/-! ## Agreement of two chains -/

/-- Two outcomes agree when both are errors that `E` relates, or both are results that `P`
relates. -/
inductive Agree (E : ε → ε → Prop) (P : α → β → Prop) : Except ε α → Except ε β → Prop where
  | error {e e' : ε} : E e e' → Agree E P (.error e) (.error e')
  | ok {a : α} {b : β} : P a b → Agree E P (.ok a) (.ok b)

namespace Agree

variable {E : ε → ε → Prop} {P : α → β → Prop} {Q : γ → δ → Prop}

theorem bind {x : Except ε α} {y : Except ε β} {f : α → Except ε γ} {g : β → Except ε δ}
    (h : Agree E P x y) (hfg : ∀ a b, P a b → Agree E Q (f a) (g b)) :
    Agree E Q (x >>= f) (y >>= g) := by
  cases h with
  | error he => exact .error he
  | ok hp => exact hfg _ _ hp

theorem map {x : Except ε α} {y : Except ε β} {f : α → γ} {g : β → δ} (h : Agree E P x y)
    (hfg : ∀ a b, P a b → Q (f a) (g b)) : Agree E Q (x.map f) (y.map g) := by
  cases h with
  | error he => exact .error he
  | ok hp => exact .ok (hfg _ _ hp)

theorem refl {R : α → α → Prop} {x : Except ε α} (hE : ∀ e, E e e)
    (hR : ∀ a, x = .ok a → R a a) : Agree E R x x := by
  cases x with
  | error e => exact .error (hE e)
  | ok a => exact .ok (hR a rfl)

theorem imp {P' : α → β → Prop} {x : Except ε α} {y : Except ε β} (h : Agree E P x y)
    (himp : ∀ a b, P a b → P' a b) : Agree E P' x y := by
  cases h with
  | error he => exact .error he
  | ok hp => exact .ok (himp _ _ hp)

theorem mapM {R : α → β → Prop} {f : α → Except ε γ} {g : β → Except ε δ} {xs : List α}
    {ys : List β} (h : List.Forall₂ R xs ys) (hfg : ∀ a b, R a b → Agree E Q (f a) (g b)) :
    Agree E (List.Forall₂ Q) (xs.mapM f) (ys.mapM g) := by
  induction h with
  | nil => exact .ok .nil
  | cons hxy _ ih =>
      rw [List.mapM_cons, List.mapM_cons]
      exact (hfg _ _ hxy).bind fun _ _ hp => ih.bind fun _ _ hps => .ok (.cons hp hps)

/-- Steps that agree on items that are related agree on a whole run. -/
theorem foldlM {C : γ → δ → Prop} {f : α → γ → Except ε α} {g : β → δ → Except ε β}
    (hstep : ∀ a b c d, P a b → C c d → Agree E P (f a c) (g b d)) {cs : List γ} {ds : List δ}
    (h : List.Forall₂ C cs ds) {a : α} {b : β} (hab : P a b) :
    Agree E P (cs.foldlM f a) (ds.foldlM g b) := by
  induction h generalizing a b with
  | nil => exact .ok hab
  | cons hcd _ ih =>
      rw [List.foldlM_cons, List.foldlM_cons]
      exact (hstep _ _ _ _ hab hcd).bind fun _ _ hab => ih hab

end Agree

end RecordMapper.Outcome
