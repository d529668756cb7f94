import RecordMapper.Proofs.Query.Sameness
import RecordMapper.Proofs.Sql.Values
import RecordMapper.Sql.Cache
import RecordMapper.Store.Sqlite

/-! # The compile cache beside compiling anew

What is kept for a query is the statement that the query has. Another query of the same key gets it
with the values that were written first, so it is the query's own statement but for the form of
these values. -/

namespace RecordMapper

open Outcome

/-! ## Parameters of one key -/

namespace Parameter

theorem eq_of_sameKey_of_stored? {p q : Parameter} (h : p.SameKey q)
    (hstored : Sqlite.stored? p = Sqlite.stored? q) : p = q := by
  cases h with
  | @value v w hsame hkey =>
      have hdump : v.dump? = w.dump? := by
        simp only [Sqlite.stored?_value] at hstored
        exact Option.map_injective (fun _ _ => value.inj) hstored
      rw [Value.eq_of_identical?_of_dump? hsame hkey hdump]
  | item hsame => exact Option.some.inj hstored

/-- Parameters of one key are stored in one form only if they are the same. -/
theorem map_stored?_eq_iff {ps qs : List Parameter} (h : List.Forall₂ SameKey ps qs) :
    ps.map Sqlite.stored? = qs.map Sqlite.stored? ↔ ps = qs := by
  induction h with
  | nil => simp
  | cons hpq _ ih =>
      rw [List.map_cons, List.map_cons, List.cons.injEq, List.cons.injEq, ih]
      exact and_congr_left fun _ => ⟨eq_of_sameKey_of_stored? hpq, congrArg _⟩

/-- What is bound is a value that is written in one form only. -/
def HasOneForm : Parameter → Prop
  | .value v => v.hasOneForm = true
  | .item _ => False

theorem eq_of_sameKey_of_hasOneForm {p q : Parameter} (hform : q.HasOneForm)
    (h : p.SameKey q) : p = q := by
  cases h with
  | value hsame => rw [Value.eq_of_identical?_of_hasOneForm hform hsame]
  | item => exact hform.elim

theorem eq_of_forall_hasOneForm {ps qs : List Parameter} (hform : ∀ q ∈ qs, q.HasOneForm)
    (h : List.Forall₂ SameKey ps qs) : ps = qs := by
  induction h with
  | nil => rfl
  | cons hpq _ ih =>
      obtain ⟨hq, hqs⟩ := List.forall_mem_cons.mp hform
      rw [eq_of_sameKey_of_hasOneForm hq hpq, ih hqs]

end Parameter

/-- What a query binds, in the form in which it is written. -/
def Query.written (q : Query) : List Parameter := (Request.select.terms q).flatMap Term.bound

theorem Query.parameters_compile {registry : Option Registry} {d : Dialect} {q : Query}
    {s : Statement} (h : q.compile registry d = .ok s) : s.parameters = q.written :=
  Request.parameters_statement (r := .select) h

/-- Queries of one key have statements that differ in the form of what they bind only, if one of
them has a statement. -/
theorem Query.compile_of_same {registry : Option Registry} {d : Dialect} {q r : Query}
    (h : q.same r = true) (hkey : Value.AllKeys r.values) {s : Statement}
    (hs : q.compile registry d = .ok s) :
    ∃ s', r.compile registry d = .ok s' ∧ s.Alike Parameter.SameKey s' := by
  have hagree : Agree (fun _ _ => True) (Statement.Alike Parameter.SameKey)
      (Request.select.statement registry d q) (Request.select.statement registry d r) :=
    Request.agree_statement (fun _ => trivial) (fun _ _ _ => trivial)
      (Query.revalued_of_same h hkey) .select
  simp only [Request.statement, hs] at hagree
  generalize hs' : r.compile registry d = x at hagree
  cases hagree with
  | @ok _ s' halike => exact ⟨s', rfl, halike⟩

theorem Statement.Alike.eq_of_parameters {R : Parameter → Parameter → Prop} {s s' : Statement}
    (h : s.Alike R s') (hparameters : s.parameters = s'.parameters) : s = s' := by
  obtain ⟨text, parameters, columns, source⟩ := s
  obtain ⟨htext, hcolumns, hsource, -⟩ := h
  simp_all

namespace Compiler

variable {registry : Option Registry} {d : Dialect} {c : Compiler}

/-! ## What a call can do -/

/-- The entry that answers for a query. -/
def answer? (c : Compiler) (q : Query) : Option (Query × Compiled) :=
  if q.values.all Value.isHashable then c.kept.find? fun e => sameKey e.1 q else none

theorem mem_of_mem_makeRoom {capacity : Int} {es : List (Query × Compiled)}
    {e : Query × Compiled} (h : e ∈ makeRoom capacity es) : e ∈ es := by
  fun_induction makeRoom capacity es with
  | case1 => exact h
  | case2 e' es hfull ih => exact List.mem_cons_of_mem _ (ih h)
  | case3 e' es hroom => exact h

theorem mem_kept_keep {q : Query} {x : Compiled} {e : Query × Compiled}
    (h : e ∈ (c.keep q x).kept) : e ∈ c.kept ∨ e = (q, x) := by
  simp only [keep] at h
  split at h
  · rcases List.mem_append.mp h with h | h
    · exact .inl (mem_of_mem_makeRoom h)
    · exact .inr (List.mem_singleton.mp h)
  · exact .inl (mem_of_mem_makeRoom h)

/-- A call for which nothing is kept fails as the query does, or it compiles the query and keeps at
most that besides what was kept before. -/
inductive Anew (c : Compiler) (q : Query) : Except CompileError (Compiled × Compiler) → Prop where
  | error {e : CompileError} : q.compile c.registry c.dialect = .error e → Anew c q (.error e)
  | ok {x : Compiled} {c' : Compiler} : q.compile c.registry c.dialect = .ok x.statement →
      c'.registry = c.registry → c'.dialect = c.dialect →
      (∀ e ∈ c'.kept, e ∈ c.kept ∨ e = (q, x)) → Anew c q (.ok (x, c'))

theorem compileAnew_of_error {q : Query} {e : CompileError}
    (h : q.compile c.registry c.dialect = .error e) : c.compileAnew q = .error e := by
  rw [compileAnew, h]
  rfl

theorem compileAnew_of_ok {q : Query} {s : Statement}
    (h : q.compile c.registry c.dialect = .ok s) :
    c.compileAnew q = .ok (⟨s, c.compiled⟩, { c with compiled := c.compiled + 1 }) := by
  rw [compileAnew, h]
  rfl

/-- A call gives what is kept for the query, or it compiles the query anew. -/
theorem compile_cases (c : Compiler) (q : Query) :
    (∃ e, c.answer? q = some e ∧ c.compile q = .ok (e.2, c)) ∨
      c.answer? q = none ∧ Anew c q (c.compile q) := by
  unfold answer? compile find?
  by_cases hkey : q.values.all Value.isHashable = true
  · rw [if_pos hkey, if_pos hkey]
    cases c.kept.find? fun e => sameKey e.1 q with
    | some e => exact .inl ⟨e, rfl, rfl⟩
    | none =>
        refine .inr ⟨rfl, ?_⟩
        cases hs : q.compile c.registry c.dialect with
        | error e =>
            rw [compileAnew_of_error hs]
            exact .error hs
        | ok s =>
            rw [compileAnew_of_ok hs]
            exact .ok hs rfl rfl fun _ => mem_kept_keep
  -- a query that is no key is neither looked up nor kept
  · rw [if_neg hkey, if_neg hkey]
    refine .inr ⟨rfl, ?_⟩
    cases hs : q.compile c.registry c.dialect with
    | error e =>
        rw [compileAnew_of_error hs]
        exact .error hs
    | ok s =>
        rw [compileAnew_of_ok hs]
        exact .ok hs rfl rfl fun _ => Or.inl

/-! ## Runs -/

/-- A compiler over a registry in which every entry is the statement of its query. -/
structure Sound (registry : Option Registry) (d : Dialect) (c : Compiler) : Prop where
  registry_eq : c.registry = registry
  dialect_eq : c.dialect = d
  compile_kept : ∀ e ∈ c.kept, e.1.compile registry d = .ok e.2.statement

/-- The compiler after a call; a call that fails leaves it as it is. -/
def after (c : Compiler) (q : Query) : Compiler :=
  match c.compile q with
  | .ok (_, c') => c'
  | .error _ => c

/-- The compiler after calls in order. -/
def afterAll (c : Compiler) (qs : List Query) : Compiler := qs.foldl after c

theorem sound_new (registry : Option Registry) (d : Dialect) (capacity : Int) :
    (new registry d capacity).Sound registry d :=
  ⟨rfl, rfl, by simp [new]⟩

/-- A call keeps every entry the statement of its query. -/
theorem Sound.after (h : c.Sound registry d) (q : Query) : (c.after q).Sound registry d := by
  unfold Compiler.after
  rcases c.compile_cases q with ⟨e, -, hcompile⟩ | ⟨-, hanew⟩
  · rw [hcompile]
    exact h
  · generalize c.compile q = outcome at hanew ⊢
    cases hanew with
    | error hs => exact h
    | @ok x c' hs hregistry hdialect hkept =>
        refine ⟨hregistry.trans h.registry_eq, hdialect.trans h.dialect_eq, ?_⟩
        intro e he
        rcases hkept e he with he | rfl
        · exact h.compile_kept e he
        · rwa [h.registry_eq, h.dialect_eq] at hs

theorem Sound.afterAll (h : c.Sound registry d) (qs : List Query) :
    (c.afterAll qs).Sound registry d := by
  induction qs generalizing c with
  | nil => exact h
  | cons q qs ih => exact ih (h.after q)

/-- A call keeps no query but its own besides those kept before. -/
theorem mem_kept_after {q : Query} {e : Query × Compiled} (h : e ∈ (c.after q).kept) :
    e ∈ c.kept ∨ e.1 = q := by
  unfold after at h
  rcases c.compile_cases q with ⟨e', -, hcompile⟩ | ⟨-, hanew⟩
  · rw [hcompile] at h
    exact .inl h
  · generalize c.compile q = outcome at hanew h
    cases hanew with
    | error => exact .inl h
    | ok _ _ _ hkept => exact (hkept e h).imp id (congrArg Prod.fst)

theorem mem_kept_afterAll {qs : List Query} {e : Query × Compiled}
    (h : e ∈ (c.afterAll qs).kept) : e ∈ c.kept ∨ e.1 ∈ qs := by
  induction qs generalizing c with
  | nil => exact .inl h
  | cons q qs ih =>
      rcases ih h with h | h
      · refine (mem_kept_after h).imp id ?_
        rintro rfl
        exact List.mem_cons_self
      · exact .inr (List.mem_cons_of_mem q h)

/-! ## A call beside compiling anew -/

/-- An entry that answers for a query is kept, and of the same key. -/
theorem of_answer? {q : Query} {e : Query × Compiled} (h : c.answer? q = some e) :
    e ∈ c.kept ∧ sameKey e.1 q = true ∧ Value.AllKeys q.values := by
  unfold answer? at h
  split at h
  · rename_i hkey
    have hsame := List.find?_some h
    exact ⟨List.mem_of_find?_eq_some h, hsame, List.all_eq_true.mp hkey⟩
  · cases h

/-- A call beside compiling anew: nothing is kept and the statement is the same, or what is kept is
bound in its place. -/
theorem Sound.agree_compile (h : c.Sound registry d) (q : Query) :
    Agree Eq (fun x s => c.answer? q = none ∧ x.1.statement = s ∨
        ∃ e, c.answer? q = some e ∧ x.1.statement.parameters = e.1.written ∧
          s.parameters = q.written ∧ x.1.statement.Alike Parameter.SameKey s)
      (c.compile q) (q.compile registry d) := by
  rcases c.compile_cases q with ⟨e, he, hcompile⟩ | ⟨hnone, hanew⟩
  · obtain ⟨hmem, hsame, hkey⟩ := of_answer? he
    -- what is kept is the statement of the earlier query, which is alike to that of this one
    have hs := h.compile_kept e hmem
    rw [sameKey, Bool.and_eq_true] at hsame
    obtain ⟨s, hs', halike⟩ := Query.compile_of_same hsame.1 hkey hs
    rw [hcompile, hs']
    exact .ok (.inr ⟨e, he, Query.parameters_compile hs, Query.parameters_compile hs', halike⟩)
  · generalize c.compile q = outcome at hanew ⊢
    rw [← h.registry_eq, ← h.dialect_eq]
    cases hanew with
    | error hs =>
        rw [hs]
        exact .error rfl
    | ok hs =>
        rw [hs]
        exact .ok (.inl ⟨hnone, rfl⟩)

/-- The cache is invisible but for the form of values. After any calls, what is kept for a query is
an earlier query of its key; a call fails as the query does, or it gives the text, the columns and
the source of the query's statement. What it gives to bind is stored in the same form as what the
query binds, place by place, exactly when nothing is kept for the query, or what is kept was written
in the same form. -/
theorem compile_afterAll (registry : Option Registry) (d : Dialect) (capacity : Int)
    (qs : List Query) (q : Query) :
    let c := (new registry d capacity).afterAll qs
    (∀ e ∈ c.answer? q, e.1 ∈ qs ∧ sameKey e.1 q = true) ∧
      Agree Eq (fun x s => x.1.statement.text = s.text ∧ x.1.statement.columns = s.columns ∧
          x.1.statement.source = s.source ∧
          (x.1.statement.parameters.map Sqlite.stored? = s.parameters.map Sqlite.stored? ↔
            ∀ e ∈ c.answer? q, e.1.written = q.written))
        (c.compile q) (q.compile registry d) := by
  intro c
  constructor
  · intro e he
    obtain ⟨hmem, hsame, -⟩ := of_answer? he
    rcases mem_kept_afterAll hmem with hmem | hmem
    · cases hmem
    · exact ⟨hmem, hsame⟩
  · have hsound : c.Sound registry d := (sound_new registry d capacity).afterAll qs
    refine (hsound.agree_compile q).imp ?_
    rintro x s (⟨hnone, rfl⟩ | ⟨e, he, hwritten, hwritten', halike⟩)
    · exact ⟨rfl, rfl, rfl, by simp [hnone]⟩
    · refine ⟨halike.text, halike.columns, halike.source, ?_⟩
      rw [Parameter.map_stored?_eq_iff halike.parameters, hwritten, hwritten', he]
      simp

/-- After a query for `1.0`, a query for `1.00` gets the statement that binds `1.0`. -/
theorem compile_afterAll_decimal :
    let q : Nat → Int → Query := fun coefficient exponent => ⟨.source "t" "t",
      [.filter (.binary .eq (.field "t" "n")
        (.literal (.decimal (.finite false coefficient exponent)))) false .and]⟩
    ∃ x s, ((new none .sqlite 512).afterAll [q 10 (-1)]).compile (q 100 (-2)) = .ok x ∧
      (q 100 (-2)).compile none .sqlite = .ok s ∧ x.1.statement.text = s.text ∧
      x.1.statement.parameters.map Sqlite.stored? ≠ s.parameters.map Sqlite.stored? := by
  intro q
  have hs : (q 100 (-2)).compile none .sqlite = .ok
      ⟨"SELECT \"t\".* FROM \"t\" AS \"t\" WHERE (\"t\".\"n\" = ?)",
        [.value (.decimal (.finite false 100 (-2)))], [], none⟩ := by
    cbv
  have hkept : ((new none .sqlite 512).afterAll [q 10 (-1)]).kept.map Prod.fst = [q 10 (-1)] := by
    cbv
  have hkeys : (q 100 (-2)).values.all Value.isHashable = true := rfl
  have hsame : sameKey (q 10 (-1)) (q 100 (-2)) = true := by
    decide +kernel
  have h := (compile_afterAll none .sqlite 512 [q 10 (-1)] (q 100 (-2))).2
  generalize (new none .sqlite 512).afterAll [q 10 (-1)] = c at h hkept ⊢
  obtain ⟨e, hkept, he⟩ := List.map_eq_singleton_iff.mp hkept
  have hentry : c.answer? (q 100 (-2)) = some e := by
    have hsame : sameKey e.1 (q 100 (-2)) = true := by rw [he, hsame]
    rw [answer?, if_pos hkeys, hkept]
    exact List.find?_cons_of_pos hsame
  have hwritten : e.1.written ≠ (q 100 (-2)).written := by
    rw [he]
    have hfirst : (q 10 (-1)).written = [.value (.decimal (.finite false 10 (-1)))] := rfl
    have hsecond : (q 100 (-2)).written = [.value (.decimal (.finite false 100 (-2)))] := rfl
    rw [hfirst, hsecond]
    rintro ⟨⟩
  rw [hs] at h
  generalize c.compile (q 100 (-2)) = outcome at h ⊢
  cases h with
  | @ok x s h =>
      obtain ⟨htext, -, -, hparameters⟩ := h
      exact ⟨x, _, rfl, hs, htext, fun hstored => hwritten (hparameters.mp hstored e hentry)⟩

/-- The cache is invisible for a query that binds values of one form only: integers, truth values,
texts, bytes, dates, identifiers, times without an offset and tuples of them. -/
theorem compile_afterAll_of_hasOneForm {qs : List Query} {q : Query}
    (hform : ∀ p ∈ q.written, p.HasOneForm) (capacity : Int) :
    Agree Eq (fun x s => x.1.statement = s)
      (((new registry d capacity).afterAll qs).compile q) (q.compile registry d) := by
  have hsound := (sound_new registry d capacity).afterAll qs
  refine (hsound.agree_compile q).imp ?_
  rintro x s (⟨-, rfl⟩ | ⟨e, -, -, hwritten, halike⟩)
  · rfl
  · rw [← hwritten] at hform
    exact halike.eq_of_parameters (Parameter.eq_of_forall_hasOneForm hform halike.parameters)

end Compiler

end RecordMapper
