import Mathlib.Data.List.Induction
import RecordMapper.Proofs.Sql.ClauseOrder
import RecordMapper.Proofs.Sql.Parts

/-! # The order of values

A statement binds what the clauses of its query bind, part by part in the order of the statement
language. Of the clauses that replace one another only the last one counts. -/

namespace RecordMapper

theorem Term.bound_termOf (t : Term) : (Column.termOf t).bound = t.bound := by
  cases t <;> rfl

/-! ## Clauses in effect -/

namespace Clause

namespace Role

/-- The roles in the order of the statement language. -/
def inOrder : List Role :=
  [.distinction, .selection, .binding, .rowFilter, .grouping, .groupFilter, .ordering, .limit,
    .offset, .ending]

/-- Whether a clause of the role replaces the ones before it. -/
def isReplaced : Role → Bool
  | .selection | .limit | .offset => true
  | _ => false

theorem mem_inOrder (k : Role) : k ∈ inOrder := by cases k <;> decide

theorem nodup_inOrder : inOrder.Nodup := by decide

end Role

/-- What a clause binds, from left to right. -/
def bound : Clause → List Parameter
  | .source .. | .distinct => []
  | .join _ _ on _ => on.toList.flatMap Term.bound
  | .filter condition _ _ => condition.bound
  | .select terms => Term.allBound terms
  | .groupBy terms => Term.allBound terms
  | .orderBy items => Term.allBound (items.map Prod.fst)
  | .limit count => [.value (.int count)]
  | .offset count => [.value (.int count)]
  | .fragment _ params => Term.paramsBound params

/-- The clauses that no later one replaces. -/
def inEffect : List Clause → List Clause
  | [] => []
  | c :: cs =>
    if c.role.isReplaced && cs.any (fun d => d.role = c.role) then inEffect cs
    else c :: inEffect cs

end Clause

namespace Query

/-- The clauses of a role that are in effect: all of them, or the last one where that replaces the
others. -/
def effective (q : Query) (k : Clause.Role) : List Clause :=
  if k.isReplaced then (q.ofRole k).getLast?.toList else q.ofRole k

end Query

namespace Clause

/-- The clauses in effect are those of each role that are. -/
theorem filter_inEffect (k : Role) (cs : List Clause) :
    (inEffect cs).filter (fun c => c.role = k) =
      if k.isReplaced then (cs.filter fun c => c.role = k).getLast?.toList
      else cs.filter fun c => c.role = k := by
  induction cs with
  | nil => simp [inEffect]
  | cons c cs ih =>
      rw [inEffect]
      by_cases hc : c.role = k
      · subst hc
        cases hreplaced : c.role.isReplaced with
        | false => simpa [hreplaced] using ih
        | true =>
            by_cases hlater : (cs.filter fun d => d.role = c.role) = []
            · have hnone : cs.any (fun d => d.role = c.role) = false := by
                simpa using List.filter_eq_nil_iff.mp hlater
              simpa [hreplaced, hnone, hlater] using ih
            · -- A later clause has the role: this one is in effect on neither side.
              have hsome : cs.any (fun d => d.role = c.role) = true := by
                simpa using List.filter_eq_nil_iff.not.mp hlater
              rw [hreplaced, if_pos rfl] at ih
              rw [hsome, Bool.and_self, if_pos rfl, if_pos rfl, ih,
                List.filter_cons_of_pos (by simp), List.getLast?_cons_of_ne_nil hlater]
      · split
        · simpa [hc] using ih
        · simpa [hc] using ih

/-- Clauses whose roles are among some are, but for their order, the clauses of each of these. -/
theorem perm_flatMap_filter {ks : List Role} (h : ks.Nodup) (cs : List Clause) :
    (cs.filter fun c => c.role ∈ ks).Perm (ks.flatMap fun k => cs.filter fun c => c.role = k) := by
  induction ks with
  | nil => simp
  | cons k ks ih =>
      obtain ⟨hk, hks⟩ := List.nodup_cons.mp h
      have hsplit := List.filter_append_perm (fun c => c.role = k)
        (cs.filter fun c => c.role ∈ k :: ks)
      have hhead : (cs.filter fun c => c.role ∈ k :: ks).filter (fun c => c.role = k) =
          cs.filter fun c => c.role = k := by
        rw [List.filter_filter]
        exact List.filter_congr fun c _ => by simp +contextual
      have htail : (cs.filter fun c => c.role ∈ k :: ks).filter (fun c => !decide (c.role = k)) =
          cs.filter fun c => c.role ∈ ks := by
        rw [List.filter_filter]
        refine List.filter_congr fun c _ => ?_
        by_cases hc : c.role = k
        · simp [hc, hk]
        · simp [hc]
      rw [hhead, htail] at hsplit
      rw [List.flatMap_cons]
      exact hsplit.symm.trans ((ih hks).append_left _)

/-! What is bound by what a clause says about the part that it is for. -/

variable {c : Clause}

theorem bound_selected? (h : c.role = .selection) :
    ∃ ts, c.selected? = some ts ∧ Term.allBound ts = c.bound := by
  rcases c with _ | _ | ⟨_, _ | _, _⟩ <;> simp_all [role, selected?, bound]

theorem bound_onTerm? (h : c.role = .binding) :
    c.onTerm?.toList.flatMap Term.bound = c.bound := by
  rcases c with _ | _ | ⟨_, _ | _, _⟩ <;> simp_all [role, onTerm?, bound]

theorem bound_rowFilter? (h : c.role = .rowFilter) :
    c.rowFilter?.toList.flatMap (fun f => f.2.bound) = c.bound := by
  rcases c with _ | _ | ⟨_, _ | _, _⟩ <;> simp_all [role, rowFilter?, bound]

theorem bound_grouped (h : c.role = .grouping) : c.grouped.flatMap Term.bound = c.bound := by
  rcases c with _ | _ | ⟨_, _ | _, _⟩ <;>
    simp_all [role, grouped, bound, Term.allBound_eq_flatMap]

theorem bound_groupFilter? (h : c.role = .groupFilter) :
    c.groupFilter?.toList.flatMap (fun f => f.2.bound) = c.bound := by
  rcases c with _ | _ | ⟨_, _ | _, _⟩ <;> simp_all [role, groupFilter?, bound]

theorem bound_ordered (h : c.role = .ordering) :
    c.ordered.flatMap (fun x => x.1.bound) = c.bound := by
  rcases c with _ | _ | ⟨_, _ | _, _⟩ <;>
    simp_all [role, ordered, bound, Term.allBound_eq_flatMap, List.flatMap_map]

theorem bound_limit? (h : c.role = .limit) :
    ∃ n, c.limit? = some n ∧ (Term.literal (.int n)).bound = c.bound := by
  rcases c with _ | _ | ⟨_, _ | _, _⟩ <;> simp_all [role, limit?, bound, Term.bound]

theorem bound_offset? (h : c.role = .offset) :
    ∃ n, c.offset? = some n ∧ (Term.literal (.int n)).bound = c.bound := by
  rcases c with _ | _ | ⟨_, _ | _, _⟩ <;> simp_all [role, offset?, bound, Term.bound]

theorem bound_ending? (h : c.role = .ending) :
    c.ending?.toList.flatMap (fun f => (Term.fragment f.1 f.2).bound) = c.bound := by
  rcases c with _ | _ | ⟨_, _ | _, _⟩ <;> simp_all [role, ending?, bound, Term.bound]

theorem bound_eq_nil (h : c.role = .distinction) : c.bound = [] := by
  rcases c with _ | _ | ⟨_, _ | _, _⟩ <;> simp_all [role, bound]

/-! ## What the parts of a query bind -/

/-- What is bound by what clauses of a role say is bound by the clauses. -/
theorem flatMap_bound_ofRole {α : Type} {k : Role} {content : Clause → List α}
    {binds : α → List Parameter} (hother : ∀ c : Clause, c.role ≠ k → content c = [])
    (hrole : ∀ c : Clause, c.role = k → (content c).flatMap binds = c.bound) (cs : List Clause) :
    (cs.flatMap content).flatMap binds = (cs.filter fun c => c.role = k).flatMap bound := by
  rw [← Plan.flatMap_ofRole hother cs, List.flatMap_assoc]
  exact List.flatMap_congr fun c hc => hrole c (by simpa using (List.mem_filter.mp hc).2)

theorem filterMap_bound_ofRole {α : Type} {k : Role} {content : Clause → Option α}
    {binds : α → List Parameter} (hother : ∀ c : Clause, c.role ≠ k → content c = none)
    (hrole : ∀ c : Clause, c.role = k → (content c).toList.flatMap binds = c.bound)
    (cs : List Clause) :
    (cs.filterMap content).flatMap binds = (cs.filter fun c => c.role = k).flatMap bound := by
  rw [List.filterMap_eq_flatMap_toList]
  exact flatMap_bound_ofRole (fun c hc => by rw [hother c hc]; rfl) hrole cs

/-- What is bound by the last thing that clauses of a role say is bound by the last of them. -/
theorem flatMap_bound_last {α : Type} {k : Role} {content : Clause → Option α}
    {binds : α → List Parameter} (hother : ∀ c : Clause, c.role ≠ k → content c = none)
    (hrole : ∀ c : Clause, c.role = k → ∃ x, content c = some x ∧ binds x = c.bound)
    (cs : List Clause) :
    (cs.filterMap content).getLast?.toList.flatMap binds =
      (cs.filter fun c => c.role = k).getLast?.toList.flatMap bound := by
  have hall : ∀ c ∈ cs.filter (fun c => c.role = k), c.role = k :=
    fun c hc => by simpa using (List.mem_filter.mp hc).2
  rw [← Plan.filterMap_ofRole hother cs]
  generalize (cs.filter fun c => c.role = k) = ds at hall
  induction ds using List.reverseRecOn with
  | nil => rfl
  | append_singleton ds c _ =>
      obtain ⟨x, hcontent, hbinds⟩ := hrole c (hall c (by simp))
      simp [hcontent, hbinds]

end Clause

namespace Query

variable {registry : Option Registry} {d : Dialect}

open Clause (flatMap_bound_ofRole filterMap_bound_ofRole flatMap_bound_last)

/-- The terms of a query bind what the clauses in effect bind, part by part. -/
theorem flatMap_bound_terms (q : Query) :
    (Request.select.terms q).flatMap Term.bound =
      Clause.Role.inOrder.flatMap fun k => (q.effective k).flatMap Clause.bound := by
  have hdistinct : (q.effective .distinction).flatMap Clause.bound = [] :=
    List.flatMap_eq_nil_iff.mpr fun c hc =>
      Clause.bound_eq_nil (by simpa using (List.mem_filter.mp hc).2)
  have hselect : ((q.lastSelect.getD []).map Column.termOf).flatMap Term.bound =
      (q.effective .selection).flatMap Clause.bound := by
    have hlast := flatMap_bound_last (fun _ => Clause.selected?_eq_none)
      (fun _ => Clause.bound_selected?) q.rest
    rw [List.flatMap_map]
    refine Eq.trans ?_ hlast
    rw [lastSelect]
    cases (q.rest.filterMap Clause.selected?).getLast? <;>
      simp [Term.bound_termOf, Term.allBound_eq_flatMap]
  have hjoins : q.joinTerms.flatMap Term.bound = (q.effective .binding).flatMap Clause.bound :=
    filterMap_bound_ofRole
      (fun _ hc => Clause.onTerm?_eq_none (Clause.role_ne_binding_iff.mp hc).1)
      (fun _ => Clause.bound_onTerm?) q.rest
  have hrows : q.rowFilters.flatMap (fun f => f.2.bound) =
      (q.effective .rowFilter).flatMap Clause.bound :=
    filterMap_bound_ofRole (fun _ => Clause.rowFilter?_eq_none)
      (fun _ => Clause.bound_rowFilter?) q.rest
  have hgrouped : q.grouped.flatMap Term.bound = (q.effective .grouping).flatMap Clause.bound :=
    flatMap_bound_ofRole (fun _ => Clause.grouped_eq_nil) (fun _ => Clause.bound_grouped) q.rest
  have hgroups : q.groupFilters.flatMap (fun f => f.2.bound) =
      (q.effective .groupFilter).flatMap Clause.bound :=
    filterMap_bound_ofRole (fun _ => Clause.groupFilter?_eq_none)
      (fun _ => Clause.bound_groupFilter?) q.rest
  have hordered : q.ordered.flatMap (fun x => x.1.bound) =
      (q.effective .ordering).flatMap Clause.bound :=
    flatMap_bound_ofRole (fun _ => Clause.ordered_eq_nil) (fun _ => Clause.bound_ordered) q.rest
  have hlimit : q.lastLimit.toList.flatMap (fun n => (Term.literal (.int n)).bound) =
      (q.effective .limit).flatMap Clause.bound :=
    flatMap_bound_last (fun _ => Clause.limit?_eq_none) (fun _ => Clause.bound_limit?) q.rest
  have hoffset : q.lastOffset.toList.flatMap (fun n => (Term.literal (.int n)).bound) =
      (q.effective .offset).flatMap Clause.bound :=
    flatMap_bound_last (fun _ => Clause.offset?_eq_none) (fun _ => Clause.bound_offset?) q.rest
  have hendings : q.endings.flatMap (fun f => (Term.fragment f.1 f.2).bound) =
      (q.effective .ending).flatMap Clause.bound :=
    filterMap_bound_ofRole (fun _ => Clause.ending?_eq_none) (fun _ => Clause.bound_ending?) q.rest
  simp only [Request.terms, List.flatMap_append, hselect, hjoins, List.flatMap_map, hrows, hgrouped,
    hgroups, hordered, hlimit, hoffset, hendings, Clause.Role.inOrder, List.flatMap_cons, hdistinct,
    List.flatMap_nil, List.append_nil, List.nil_append, List.append_assoc]

/-- A statement binds what the clauses in effect bind, in the order of the statement language and,
for each part, in the order of the clauses. What they bind it binds as often as they do; what a
later clause replaces it does not bind. -/
theorem parameters_inOrder {q : Query} {s : Statement} (h : q.compile registry d = .ok s) :
    s.parameters = Clause.Role.inOrder.flatMap (fun k => (q.effective k).flatMap Clause.bound) ∧
      s.parameters.Perm ((Clause.inEffect q.rest).flatMap Clause.bound) := by
  have hparameters : s.parameters =
      Clause.Role.inOrder.flatMap fun k => (q.effective k).flatMap Clause.bound :=
    (Request.parameters_statement (r := .select) h).trans q.flatMap_bound_terms
  refine ⟨hparameters, ?_⟩
  have hall : ((Clause.inEffect q.rest).filter fun c => c.role ∈ Clause.Role.inOrder) =
      Clause.inEffect q.rest :=
    List.filter_eq_self.mpr fun c _ => by simpa using c.role.mem_inOrder
  have hperm := Clause.perm_flatMap_filter Clause.Role.nodup_inOrder (Clause.inEffect q.rest)
  rw [hall] at hperm
  simp only [Clause.filter_inEffect] at hperm
  rw [hparameters, ← List.flatMap_assoc]
  exact (List.Perm.flatMap_right Clause.bound hperm).symm

/-- Clauses in another order than that of the statement, and a selection, a limit and an offset that
are replaced. The operand of the empty list is bound as well. -/
theorem parameters_inOrder_replaced :
    let n : Term := .field "t" "n"
    let q : Query := ⟨.source "t" "t",
      [.fragment "FOR ?" [.plain (.int 10)], .limit 90, .offset 91, .select [.literal (.int 92)],
        .orderBy [(.binary .add n (.literal (.int 7)), .asc)],
        .filter (.inList (.binary .add n (.literal (.int 3))) [] false) false .and,
        .limit 8, .groupBy [.binary .mul n (.literal (.int 5))], .offset 9,
        .filter (.inList n [.literal (.int 4), .fragment "?" [.plain (.int 40)]] false) false .or,
        .select [.literal (.int 1), n],
        .filter (.binary .gt n (.literal (.int 6))) true .and,
        .join (.relation "u") "u" (some (.binary .eq (.literal (.int 2)) (.field "u" "n"))) .left]⟩
    ∃ s, q.compile none .sqlite = .ok s ∧
      s.parameters = [1, 2, 3, 4, 40, 5, 6, 7, 8, 9, 10].map fun i => .value (.int i) := by
  intro n q
  have hsome : ∃ s, q.compile none .sqlite = .ok s := ⟨_, by cbv⟩
  obtain ⟨s, hs⟩ := hsome
  exact ⟨s, hs, (parameters_inOrder hs).1.trans (by cbv)⟩

end Query

end RecordMapper
