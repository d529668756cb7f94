import Mathlib.Data.List.Induction
import RecordMapper.Proofs.Schema.Growth
import RecordMapper.Proofs.Sql.Caching

/-! # The compile cache beside a growing registry

What is kept for a query was compiled over the registry of that time. When schemas are added, a name
of the query may lead to a schema that was not there; the kept statement does not follow. -/

namespace RecordMapper

open Outcome

/-! ## What a query reads of a registry -/

/-- The relations and schemas that a clause gives by name. -/
def Clause.relationNames : Clause → List String
  | .source name _ => [name]
  | .join (.relation name) _ _ _ => [name]
  | _ => []

/-- The relations and schemas that a query gives by name. -/
def Query.relationNames (q : Query) : List String := q.clauses.flatMap Clause.relationNames

variable {registry registry' : Option Registry} {d : Dialect}

namespace Plan

theorem bind_congr {source : String} (h : resolve? registry' source = resolve? registry source)
    (name : String) : bind registry' name source = bind registry name source := by
  rw [bind, bind, h]

/-- A join binds the same over a grown registry, if the name that it gives leads to the same. -/
theorem Introduces.of_grows {bindings : List Bound} {binding : String} {target : JoinTarget}
    {on : Option Term} {kind : JoinKind} {joined : Bound} {condition : Term}
    (hgrows : Option.Rel Registry.GrowsTo registry registry')
    (hnames : ∀ n ∈ (Clause.join target binding on kind).relationNames,
      resolve? registry' n = resolve? registry n)
    (h : Introduces registry bindings binding target on joined condition) :
    Introduces registry' bindings binding target on joined condition := by
  cases h with
  | relation name =>
      rw [← bind_congr (hnames name List.mem_cons_self)]
      exact .relation name _
  | association _ hb hschema hknown hjoint =>
      subst hknown
      cases hgrows with
      | some hgrows => exact .association _ hb hschema rfl (hgrows.joint hjoint)

theorem Joined.of_grows {bindings : List Bound} {cs : List Clause} {js : List PlannedJoin}
    (hgrows : Option.Rel Registry.GrowsTo registry registry')
    (hnames : ∀ n ∈ cs.flatMap Clause.relationNames, resolve? registry' n = resolve? registry n)
    (h : Joined registry bindings cs js) : Joined registry' bindings cs js := by
  induction h with
  | nil bindings => exact .nil bindings
  | join kind hintro _ ih =>
      rw [List.flatMap_cons, List.forall_mem_append] at hnames
      exact .join kind (hintro.of_grows hgrows hnames.1) (ih hnames.2)
  | other hj hs _ ih =>
      rw [List.flatMap_cons, List.forall_mem_append] at hnames
      exact .other hj hs (ih hnames.2)

end Plan

/-- A query that compiles has the same statement over a grown registry, if the names that it gives
lead to the same. Relationships that were followed need no such condition. -/
theorem Query.compile_of_grows {q : Query} {s : Statement}
    (hgrows : Option.Rel Registry.GrowsTo registry registry')
    (hnames : ∀ n ∈ q.relationNames, Plan.resolve? registry' n = Plan.resolve? registry n)
    (h : q.compile registry d = .ok s) : q.compile registry' d = .ok s := by
  obtain ⟨p, hp, hs⟩ := bind_eq_ok_iff.mp h
  obtain ⟨name, binding, js, hroot, hjs, hfresh, rfl⟩ := Plan.ofQuery_eq_ok_iff.mp hp
  rw [relationNames, clauses, List.flatMap_cons, List.forall_mem_append, hroot] at hnames
  have hbind := Plan.bind_congr (hnames.1 name List.mem_cons_self) binding
  refine bind_eq_ok_iff.mpr ⟨_, Plan.ofQuery_eq_ok_iff.mpr ⟨name, binding, js, hroot, ?_, hfresh,
    rfl⟩, ?_⟩
  · rw [hbind]
    exact hjs.of_grows hgrows hnames.2
  · rwa [hbind]

namespace Compiler

variable {c : Compiler}

/-! ## Runs -/

/-- What happens to a compiler and to its registry: a query is compiled, or schemas are added. -/
inductive Event where
  | compile (q : Query)
  | grow (o : Registry.Operation)

/-- The compiler after an event. It looks at its registry when it compiles a query, and nothing is
dropped from what it keeps when the registry grows. -/
def afterEvent (c : Compiler) : Event → Compiler
  | .compile q => c.after q
  | .grow o => { c with registry := c.registry.map (·.after o) }

/-- The compiler after events in order. -/
def afterEvents (c : Compiler) (events : List Event) : Compiler := events.foldl afterEvent c

theorem afterEvents_concat (c : Compiler) (events : List Event) (event : Event) :
    c.afterEvents (events ++ [event]) = (c.afterEvents events).afterEvent event := by
  simp [afterEvents]

/-- A call leaves the registry and the dialect as they are. -/
theorem after_settings (c : Compiler) (q : Query) :
    (c.after q).registry = c.registry ∧ (c.after q).dialect = c.dialect := by
  unfold after
  rcases c.compile_cases q with ⟨e, -, hcompile⟩ | ⟨-, hanew⟩
  · rw [hcompile]
    exact ⟨rfl, rfl⟩
  · generalize c.compile q = outcome at hanew ⊢
    cases hanew with
    | error => exact ⟨rfl, rfl⟩
    | ok _ hregistry hdialect => exact ⟨hregistry, hdialect⟩

theorem dialect_afterEvents (c : Compiler) (events : List Event) :
    (c.afterEvents events).dialect = c.dialect := by
  induction events using List.reverseRecOn with
  | nil => rfl
  | append_singleton events event ih =>
      rw [afterEvents_concat]
      cases event with
      | compile q => exact (after_settings _ q).2.trans ih
      | grow o => exact ih

/-- The schemas that are added by an event. -/
def Event.operation? : Event → Option Registry.Operation
  | .compile _ => none
  | .grow o => some o

/-- The registry grows by what is added to it, whatever is compiled meanwhile. -/
theorem registry_afterEvents (c : Compiler) (events : List Event) :
    (c.afterEvents events).registry =
      c.registry.map (·.afterAll (events.filterMap Event.operation?)) := by
  induction events generalizing c with
  | nil => exact Option.map_id'.symm
  | cons event events ih =>
      refine (ih (c.afterEvent event)).trans ?_
      cases event with
      | compile q =>
          rw [afterEvent, (c.after_settings q).1, List.filterMap_cons_none (by rfl)]
      | grow o =>
          rw [afterEvent, Option.map_map, List.filterMap_cons_some (by rfl)]
          rfl

theorem grows_registry_afterEvents (c : Compiler) (front back : List Event) :
    Option.Rel Registry.GrowsTo (c.afterEvents front).registry
      (c.afterEvents (front ++ back)).registry := by
  rw [registry_afterEvents, registry_afterEvents, List.filterMap_append]
  cases c.registry with
  | none => exact .none
  | some r =>
      refine .some ?_
      dsimp only
      rw [Registry.afterAll_append]
      exact Registry.growsTo_afterAll _ _

/-- What a compiler keeps was compiled in an earlier call, over the registry of that time. -/
theorem exists_call_of_mem_kept (capacity : Int) {events : List Event} {e : Query × Compiled}
    (h : e ∈ ((new registry d capacity).afterEvents events).kept) :
    ∃ front back, events = front ++ .compile e.1 :: back ∧
      e.1.compile ((new registry d capacity).afterEvents front).registry d =
        .ok e.2.statement := by
  induction events using List.reverseRecOn with
  | nil => cases h
  | append_singleton events event ih =>
      rw [afterEvents_concat] at h
      have hearlier : e ∈ ((new registry d capacity).afterEvents events).kept →
          ∃ front back, events ++ [event] = front ++ .compile e.1 :: back ∧
            e.1.compile ((new registry d capacity).afterEvents front).registry d =
              .ok e.2.statement := by
        intro hkept
        obtain ⟨front, back, rfl, hs⟩ := ih hkept
        exact ⟨front, back ++ [event], by simp, hs⟩
      cases event with
      | grow o => exact hearlier h
      | compile q =>
          have hdialect := dialect_afterEvents (new registry d capacity) events
          generalize hc : (new registry d capacity).afterEvents events = c at h hearlier hdialect
          simp only [afterEvent, after] at h
          rcases c.compile_cases q with ⟨x, -, hcompile⟩ | ⟨-, hanew⟩
          · rw [hcompile] at h
            exact hearlier h
          · generalize c.compile q = outcome at hanew h
            cases hanew with
            | error => exact hearlier h
            | ok hs _ _ hkept =>
                rcases hkept e h with hmem | rfl
                · exact hearlier hmem
                · refine ⟨events, [], rfl, ?_⟩
                  rw [hc]
                  rwa [hdialect] at hs

/-! ## A call beside a new compiler -/

/-- A call does what a new compiler over the registry does: it fails in the same way, or gives the
same statement. -/
def Follows (c : Compiler) (q : Query) : Prop :=
  Agree Eq (fun x s => x.1.statement = s) (c.compile q) (q.compile c.registry c.dialect)

theorem follows_of_answer?_eq_none {q : Query} (h : c.answer? q = none) : c.Follows q := by
  rcases c.compile_cases q with ⟨e, he, -⟩ | ⟨-, hanew⟩
  · cases he.symm.trans h
  · unfold Follows
    generalize c.compile q = outcome at hanew ⊢
    cases hanew with
    | error hs =>
        rw [hs]
        exact .error rfl
    | ok hs =>
        rw [hs]
        exact .ok rfl

theorem follows_iff_of_answer? {q : Query} {e : Query × Compiled} (h : c.answer? q = some e) :
    c.Follows q ↔ q.compile c.registry c.dialect = .ok e.2.statement := by
  rcases c.compile_cases q with ⟨x, hx, hcompile⟩ | ⟨hnone, -⟩
  · obtain rfl := Option.some.inj (hx.symm.trans h)
    unfold Follows
    rw [hcompile]
    constructor
    · intro hagree
      generalize q.compile c.registry c.dialect = y at hagree
      cases hagree with
      | ok heq => rw [heq]
    · intro heq
      rw [heq]
      exact .ok rfl
  · cases hnone.symm.trans h

/-- A statement that was compiled for a query of the key of another one, over an earlier registry,
is the statement of the other query exactly when both bind their values in the same form and the
other query has the statement that it had over the earlier registry. -/
theorem compile_eq_iff_of_sameKey {q r : Query} {s : Statement} (hsame : sameKey q r = true)
    (hkeys : Value.AllKeys r.values) (hs : q.compile registry d = .ok s) :
    r.compile registry' d = .ok s ↔
      q.written = r.written ∧ r.compile registry' d = r.compile registry d := by
  rw [sameKey, Bool.and_eq_true] at hsame
  obtain ⟨s', hs', halike⟩ := Query.compile_of_same hsame.1 hkeys hs
  have hparameters := Query.parameters_compile hs
  have hparameters' := Query.parameters_compile hs'
  constructor
  · intro hnow
    have hwritten : q.written = r.written :=
      hparameters.symm.trans (Query.parameters_compile hnow)
    have heq := halike.eq_of_parameters (by rw [hparameters, hparameters', hwritten])
    exact ⟨hwritten, by rw [hnow, hs', heq]⟩
  · rintro ⟨hwritten, hnow⟩
    have heq := halike.eq_of_parameters (by rw [hparameters, hparameters', hwritten])
    rw [hnow, hs', heq]

/-- When a compiler follows its registry. After any calls and additions, a call for which nothing is
kept does what a new compiler does. What is kept was compiled for a query of the same key in an
earlier call, and the later call gives just that: it does what a new compiler does exactly when the
values were written in the same form and the added schemas do not change the statement of the query.
They do not if the names that the query gives lead to the same schemas as before. -/
theorem follows_afterEvents_iff (registry : Option Registry) (d : Dialect) (capacity : Int)
    (events : List Event) (q : Query) :
    let c := (new registry d capacity).afterEvents events
    (c.answer? q = none → c.Follows q) ∧
      ∀ e, c.answer? q = some e → ∃ front back,
        let earlier := ((new registry d capacity).afterEvents front).registry
        events = front ++ .compile e.1 :: back ∧ sameKey e.1 q = true ∧
          e.1.compile earlier d = .ok e.2.statement ∧ c.compile q = .ok (e.2, c) ∧
          (c.Follows q ↔
            e.1.written = q.written ∧ q.compile c.registry d = q.compile earlier d) ∧
          ((∀ n ∈ q.relationNames, Plan.resolve? c.registry n = Plan.resolve? earlier n) →
            q.compile c.registry d = q.compile earlier d) := by
  intro c
  refine ⟨follows_of_answer?_eq_none, fun e he => ?_⟩
  obtain ⟨hmem, hsame, hkeys⟩ := of_answer? he
  obtain ⟨front, back, hevents, hs⟩ := exists_call_of_mem_kept capacity hmem
  have hdialect : c.dialect = d := dialect_afterEvents _ events
  refine ⟨front, back, hevents, hsame, hs, ?_, ?_, fun hnames => ?_⟩
  · rcases c.compile_cases q with ⟨x, hx, hcompile⟩ | ⟨hnone, -⟩
    · obtain rfl := Option.some.inj (hx.symm.trans he)
      exact hcompile
    · cases hnone.symm.trans he
  · rw [follows_iff_of_answer? he, hdialect]
    exact compile_eq_iff_of_sameKey hsame hkeys hs
  · have hgrows := grows_registry_afterEvents (new registry d capacity) front
      (.compile e.1 :: back)
    rw [← hevents] at hgrows
    rw [sameKey, Bool.and_eq_true] at hsame
    obtain ⟨s, hearlier, -⟩ := Query.compile_of_same hsame.1 hkeys hs
    rw [hearlier, Query.compile_of_grows hgrows hnames hearlier]

/-- After a query for a relation and the registration of a schema for it, the query still gets all
columns of the relation; a new compiler gives the stored fields of the schema. A query that was not
compiled before gets them. -/
theorem follows_afterEvents_iff_registered :
    let user : Descriptor := ⟨"User", "users", [Descriptor.keyField "id" true], [], "id",
      by decide, by decide⟩
    let q : String → Query := fun binding => ⟨.source "users" binding, []⟩
    let c := (new (some .empty) .sqlite 512).afterEvents
      [.compile (q "users"), .grow (.register user)]
    (∃ x, c.compile (q "users") = .ok x ∧
        x.1.statement = ⟨"SELECT \"users\".* FROM \"users\" AS \"users\"", [], [], none⟩) ∧
      (q "users").compile c.registry .sqlite = .ok
        ⟨"SELECT \"users\".\"id\" FROM \"users\" AS \"users\"", [], ["id"], some "User"⟩ ∧
      ¬ c.Follows (q "users") ∧ c.Follows (q "u") := by
  intro user q c
  have hnow : (q "users").compile c.registry .sqlite = .ok
      ⟨"SELECT \"users\".\"id\" FROM \"users\" AS \"users\"", [], ["id"], some "User"⟩ := by
    cbv
  have hkept : c.kept.map Prod.fst = [q "users"] := by
    cbv
  have hearlier : (q "users").compile (some .empty) .sqlite = .ok
      ⟨"SELECT \"users\".* FROM \"users\" AS \"users\"", [], [], none⟩ := by
    cbv
  obtain ⟨e, hentry, he⟩ := List.map_eq_singleton_iff.mp hkept
  have hanswer : c.answer? (q "users") = some e := by
    have hsame : sameKey e.1 (q "users") = true := by
      rw [he]
      decide
    rw [answer?, if_pos (by rfl), hentry]
    exact List.find?_cons_of_pos hsame
  have hnone : c.answer? (q "u") = none := by
    have hother : sameKey e.1 (q "u") = false := by
      rw [he]
      decide
    rw [answer?, if_pos (by rfl), hentry]
    simp [hother]
  have hlaw := follows_afterEvents_iff (some .empty) .sqlite 512
    [.compile (q "users"), .grow (.register user)]
  obtain ⟨front, back, hevents, -, hs, hcompile, hfollows, -⟩ := (hlaw (q "users")).2 e hanswer
  -- the only call so far is the first event
  obtain rfl : front = [] := by
    rcases front with _ | ⟨event, _ | ⟨event', front⟩⟩
    · rfl
    · simp at hevents
    · simp at hevents
  have hs' : (q "users").compile (some .empty) .sqlite = .ok e.2.statement := he ▸ hs
  have hstatement := hs'.symm.trans hearlier
  refine ⟨⟨_, hcompile, Except.ok.inj hstatement⟩, hnow, fun h => ?_, (hlaw (q "u")).1 hnone⟩
  have hsame := Except.ok.inj (hnow.symm.trans ((hfollows.mp h).2.trans hearlier))
  exact absurd (congrArg Statement.source hsame) (by simp)

end Compiler

end RecordMapper
