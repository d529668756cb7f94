import Mathlib
import RecordMapper.Proofs.Sql.Plan
import RecordMapper.Sql.Select

/-! # The order of clauses

Each clause goes into one part of the statement. Two queries that begin in the same way and have the
same clauses for each part, in the same order, are compiled alike, whatever the order of clauses for
different parts. -/

namespace RecordMapper

open Plan

/-! ## Roles -/

/-- What a clause is for. -/
inductive Clause.Role where
  | binding
  | rowFilter
  | groupFilter
  | selection
  | distinction
  | grouping
  | ordering
  | limit
  | offset
  | ending
deriving DecidableEq

namespace Clause

/-- What the clause is for. A source binds a name as a join does. -/
def role : Clause → Role
  | .source .. => .binding
  | .join .. => .binding
  | .filter _ false _ => .rowFilter
  | .filter _ true _ => .groupFilter
  | .select _ => .selection
  | .distinct => .distinction
  | .groupBy _ => .grouping
  | .orderBy _ => .ordering
  | .limit _ => .limit
  | .offset _ => .offset
  | .fragment .. => .ending

variable {c : Clause}

theorem role_of_isJoin (h : c.isJoin = true) : c.role = .binding := by
  cases c <;> simp_all [isJoin, role]

theorem role_ne_binding_iff : c.role ≠ .binding ↔ c.isJoin = false ∧ c.isSource = false := by
  rcases c with _ | _ | ⟨_, _ | _, _⟩ <;> simp [role, isJoin, isSource]

/-! What a clause says about a part that it is not for. -/

theorem rowFilter?_eq_none (h : c.role ≠ .rowFilter) : c.rowFilter? = none := by
  rcases c with _ | _ | ⟨_, _ | _, _⟩ <;> simp_all [role, rowFilter?]

theorem groupFilter?_eq_none (h : c.role ≠ .groupFilter) : c.groupFilter? = none := by
  rcases c with _ | _ | ⟨_, _ | _, _⟩ <;> simp_all [role, groupFilter?]

theorem selected?_eq_none (h : c.role ≠ .selection) : c.selected? = none := by
  cases c <;> simp_all [role, selected?]

theorem grouped_eq_nil (h : c.role ≠ .grouping) : c.grouped = [] := by
  cases c <;> simp_all [role, grouped]

theorem ordered_eq_nil (h : c.role ≠ .ordering) : c.ordered = [] := by
  cases c <;> simp_all [role, ordered]

theorem limit?_eq_none (h : c.role ≠ .limit) : c.limit? = none := by
  cases c <;> simp_all [role, limit?]

theorem offset?_eq_none (h : c.role ≠ .offset) : c.offset? = none := by
  cases c <;> simp_all [role, offset?]

theorem ending?_eq_none (h : c.role ≠ .ending) : c.ending? = none := by
  cases c <;> simp_all [role, ending?]

end Clause

namespace Query

/-- The clauses after the first one that have a role, in order. -/
def ofRole (q : Query) (k : Clause.Role) : List Clause := q.rest.filter fun c => c.role = k

/-- Two queries begin in the same way and have the same clauses for each role in the same order; of
the clauses that drop rows, both have some or both have none. -/
structure SameByRole (q r : Query) : Prop where
  root : q.root = r.root
  clauses : ∀ k, k ≠ .distinction → q.ofRole k = r.ofRole k
  distinct : q.isDistinct = r.isDistinct

end Query

/-! ## Plans -/

namespace Plan

variable {registry : Option Registry}

/-- What only clauses of a role have, all clauses have in the same order as those of the role. -/
theorem filterMap_ofRole {α : Type} {f : Clause → Option α} {k : Clause.Role}
    (h : ∀ c : Clause, c.role ≠ k → f c = none) (cs : List Clause) :
    (cs.filter fun c => c.role = k).filterMap f = cs.filterMap f := by
  rw [List.filterMap_filter]
  apply List.filterMap_congr
  intro c _
  by_cases hc : c.role = k
  · simp [hc]
  · simp [hc, h c hc]

theorem flatMap_ofRole {α : Type} {f : Clause → List α} {k : Clause.Role}
    (h : ∀ c : Clause, c.role ≠ k → f c = []) (cs : List Clause) :
    (cs.filter fun c => c.role = k).flatMap f = cs.flatMap f := by
  induction cs with
  | nil => rfl
  | cons c cs ih =>
      by_cases hc : c.role = k
      · simp [hc, ih]
      · simp [hc, ih, h c hc]

/-- What clauses other than joins add to a plan is determined role by role. -/
theorem extend_congr {cs ds : List Clause}
    (h : ∀ k : Clause.Role, k ≠ .binding → k ≠ .distinction →
      cs.filter (fun c => c.role = k) = ds.filter fun c => c.role = k)
    (hdistinct : cs.any Clause.isDistinct = ds.any Clause.isDistinct) (p : Plan) :
    p.extend cs [] = p.extend ds [] := by
  have hmap : ∀ {α : Type} {f : Clause → Option α} (k : Clause.Role),
      (∀ c : Clause, c.role ≠ k → f c = none) → k ≠ .binding → k ≠ .distinction →
      cs.filterMap f = ds.filterMap f := by
    intro α f k hf hk hk'
    rw [← filterMap_ofRole hf cs, ← filterMap_ofRole hf ds, h k hk hk']
  have hflat : ∀ {α : Type} {f : Clause → List α} (k : Clause.Role),
      (∀ c : Clause, c.role ≠ k → f c = []) → k ≠ .binding → k ≠ .distinction →
      cs.flatMap f = ds.flatMap f := by
    intro α f k hf hk hk'
    rw [← flatMap_ofRole hf cs, ← flatMap_ofRole hf ds, h k hk hk']
  have hrows := hmap .rowFilter (fun _ => Clause.rowFilter?_eq_none) nofun nofun
  have hgroups := hmap .groupFilter (fun _ => Clause.groupFilter?_eq_none) nofun nofun
  have hselected := hmap .selection (fun _ => Clause.selected?_eq_none) nofun nofun
  have hgrouped := hflat .grouping (fun _ => Clause.grouped_eq_nil) nofun nofun
  have hordered := hflat .ordering (fun _ => Clause.ordered_eq_nil) nofun nofun
  have hlimit := hmap .limit (fun _ => Clause.limit?_eq_none) nofun nofun
  have hoffset := hmap .offset (fun _ => Clause.offset?_eq_none) nofun nofun
  have hending := hmap .ending (fun _ => Clause.ending?_eq_none) nofun nofun
  simp only [extend, hrows, hgroups, hselected, hdistinct, hgrouped, hordered, hlimit, hoffset,
    hending]

/-- A clause that binds a name adds nothing else to a plan. -/
theorem extend_binding {c : Clause} (h : c.role = .binding) (cs : List Clause) (p : Plan) :
    p.extend (c :: cs) [] = p.extend cs [] := by
  refine extend_congr (fun k hk _ => ?_) ?_ p
  · have hne : c.role ≠ k := h ▸ hk.symm
    simp [hne]
  · cases c <;> simp_all [Clause.role, Clause.isDistinct]

/-- A clause that binds a name can be added before or after the other clauses: it reads only what is
bound. -/
theorem add_extend {c : Clause} (h : c.role = .binding) (p : Plan) (cs : List Clause) :
    (p.extend cs []).add registry c = (p.add registry c).map fun q => q.extend cs [] := by
  cases c with
  | source => rfl
  | join target binding on kind =>
      have hbindings : (p.extend cs []).bindings = p.bindings := List.append_nil _
      simp only [add, addJoin, hbindings]
      split
      · rfl
      · cases introduce registry p.bindings binding target on with
        | error e => rfl
        | ok x => exact congrArg Except.ok (by simp [extend])
  | filter t onGroups op => cases onGroups <;> cases h
  | _ => cases h

theorem foldlM_add_extend {cs : List Clause} (h : ∀ c ∈ cs, c.role = .binding) (p : Plan)
    (ds : List Clause) :
    cs.foldlM (add registry) (p.extend ds []) =
      (cs.foldlM (add registry) p).map fun q => q.extend ds [] := by
  induction cs generalizing p with
  | nil => rfl
  | cons c cs ih =>
      obtain ⟨hc, hcs⟩ := List.forall_mem_cons.mp h
      rw [List.foldlM_cons, List.foldlM_cons, add_extend hc]
      cases p.add registry c with
      | error e => rfl
      | ok q => exact ih hcs q

/-- Clauses are added to a plan by adding those that bind names, and then all others. -/
theorem foldlM_add_eq (cs : List Clause) (p : Plan) :
    cs.foldlM (add registry) p =
      ((cs.filter fun c => c.role = .binding).foldlM (add registry) p).map
        fun q => q.extend cs [] := by
  induction cs generalizing p with
  | nil => exact congrArg Except.ok (extend_nil p).symm
  | cons c cs ih =>
      by_cases hc : c.role = .binding
      · rw [List.filter_cons_of_pos (by simpa using hc), List.foldlM_cons, List.foldlM_cons]
        simp only [extend_binding hc]
        cases p.add registry c with
        | error e => rfl
        | ok q => exact ih q
      · obtain ⟨hj, hs⟩ := Clause.role_ne_binding_iff.mp hc
        have hbinding : ∀ d ∈ cs.filter (fun d => d.role = .binding), d.role = .binding :=
          fun d hd => by simpa using (List.mem_filter.mp hd).2
        rw [List.filter_cons_of_neg (by simpa using hc), List.foldlM_cons, add_other hj hs]
        -- the bindings do not see what the clause adds, so it may as well be added last
        calc cs.foldlM (add registry) (p.extend [c] [])
            = ((cs.filter fun d => d.role = .binding).foldlM (add registry) (p.extend [c] [])).map
                fun q => q.extend cs [] := ih _
          _ = ((cs.filter fun d => d.role = .binding).foldlM (add registry) p).map
                fun q => (q.extend [c] []).extend cs [] := by
              rw [foldlM_add_extend hbinding]
              cases (cs.filter fun d => d.role = .binding).foldlM (add registry) p <;> rfl
          _ = _ := by simp only [extend_extend, List.singleton_append, List.append_nil]

/-- The plan of a query is determined by its clauses for each part. -/
theorem ofQuery_of_sameByRole {q r : Query} (h : q.SameByRole r) :
    ofQuery registry q = ofQuery registry r := by
  have hextend : ∀ p : Plan, p.extend q.rest [] = p.extend r.rest [] :=
    extend_congr (fun k _ hk => h.clauses k hk) h.distinct
  have hbindings : (q.rest.filter fun c => c.role = .binding) =
      r.rest.filter fun c => c.role = .binding := h.clauses .binding nofun
  unfold ofQuery
  rw [h.root]
  cases r.root with
  | source name binding => simp only [foldlM_add_eq q.rest, foldlM_add_eq r.rest, hbindings, hextend]
  | _ => rfl

end Plan

/-! ## Queries -/

namespace Query

/-- A clause for one part may be moved over clauses for other parts. -/
theorem sameByRole_move (root : Clause) (front back : List Clause) {c : Clause} {ds : List Clause}
    (h : ∀ d ∈ ds, d.role ≠ c.role) :
    SameByRole ⟨root, front ++ c :: ds ++ back⟩ ⟨root, front ++ ds ++ c :: back⟩ := by
  refine ⟨rfl, fun k _ => ?_, ?_⟩
  · by_cases hc : c.role = k
    · have hnone : (ds.filter fun d => d.role = k) = [] := by
        apply List.filter_eq_nil_iff.mpr
        intro d hd
        have hd : d.role ≠ k := hc ▸ h d hd
        simpa using hd
      simp [ofRole, hc, hnone]
    · simp [ofRole, hc]
  · simp [isDistinct, Bool.or_left_comm]

/-- Queries that differ only in the order of clauses for different parts are compiled to the same
statement, or fail with the same error. In particular a condition may stand before the joins that
bind the names in it. -/
theorem compile_of_sameByRole (registry : Option Registry) (d : Dialect) {q r : Query}
    (h : q.SameByRole r) :
    q.compile registry d = r.compile registry d ∧
      ∀ (front joins back : List Clause) (t : Term) (onGroups : Bool) (op : Connective),
        q.rest = front ++ .filter t onGroups op :: joins ++ back → (∀ j ∈ joins, j.isJoin = true) →
        q.compile registry d =
          compile registry d ⟨q.root, front ++ joins ++ .filter t onGroups op :: back⟩ := by
  have hcompile : ∀ {q r : Query}, q.SameByRole r → q.compile registry d = r.compile registry d := by
    intro q r h
    simp only [compile, ofQuery_of_sameByRole h]
  refine ⟨hcompile h, ?_⟩
  intro front joins back t onGroups op hrest hjoins
  have hroles : ∀ j ∈ joins, j.role ≠ (Clause.filter t onGroups op).role := by
    intro j hj
    rw [Clause.role_of_isJoin (hjoins j hj)]
    cases onGroups <;> nofun
  have hmove := sameByRole_move q.root front back hroles
  rw [← hrest] at hmove
  exact hcompile hmove

/-- Posts are limited and filtered by their author's name before the author is joined, or after. -/
theorem compile_of_sameByRole_lateJoin :
    let named : Clause :=
      .filter (.binary .eq (.field "a" "name") (.literal (.string "ada"))) false .and
    let author : Clause := .join (.relation "users") "a"
      (some (.binary .eq (.field "a" "id") (.field "p" "author_id"))) .inner
    let q : Query := ⟨.source "posts" "p", [.limit 3, named, author, .distinct]⟩
    let r : Query := ⟨.source "posts" "p", [.distinct, author, named, .limit 3]⟩
    q.SameByRole r ∧ q.compile none .sqlite = r.compile none .sqlite ∧
      q.compile none .sqlite =
        compile none .sqlite ⟨.source "posts" "p", [.limit 3, author, named, .distinct]⟩ ∧
      q.compile none .sqlite = .ok
        ⟨"SELECT DISTINCT \"p\".* FROM \"posts\" AS \"p\" INNER JOIN \"users\" AS \"a\" " ++
          "ON (\"a\".\"id\" = \"p\".\"author_id\") WHERE (\"a\".\"name\" = ?) LIMIT ?",
          [.value (.string "ada"), .value (.int 3)], [], none⟩ := by
  intro named author q r
  have hroles : q.SameByRole r := by
    refine ⟨rfl, fun k hk => ?_, rfl⟩
    cases k <;> rfl
  obtain ⟨hcompile, hlate⟩ := compile_of_sameByRole none .sqlite hroles
  refine ⟨hroles, hcompile, hlate [.limit 3] [author] [.distinct] _ _ _ rfl (by simp [author,
    Clause.isJoin]), hcompile.trans ?_⟩
  cbv

end Query

end RecordMapper
