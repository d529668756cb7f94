import RecordMapper.Query.Builder
import RecordMapper.Sql.Statement

/-! # Nodes of terms

The nodes of a term and what they bind. A parameter of a fragment that is no term has no nodes: it
is bound as it is. -/

namespace RecordMapper

/-- What is bound in the place of a term, as a term. -/
def Parameter.toTerm : Parameter → Term
  | .value v => .literal v
  | .item t => .held t

namespace Term

/-- The term, or what is bound in its place. -/
def inPlace (t : Term) : Term := ((Parameter.ofTerm? t).map Parameter.toTerm).getD t

/-! ## Nodes -/

mutual

/-- A term and all terms within it. -/
def nodes : Term → List Term
  | .field b n => [.field b n]
  | .literal v => [.literal v]
  | .binary op l r => .binary op l r :: (nodes l ++ nodes r)
  | .connected op ts => .connected op ts :: allNodes ts
  | .not t => .not t :: nodes t
  | .isNull t negated => .isNull t negated :: nodes t
  | .inList t vs negated => .inList t vs negated :: (nodes t ++ allNodes vs)
  | .aggregate f none distinct => [.aggregate f none distinct]
  | .aggregate f (some t) distinct => .aggregate f (some t) distinct :: nodes t
  | .fragment raw ps => .fragment raw ps :: paramNodes ps
  | .alias t n => .alias t n :: nodes t
  | .order t d => [.order t d]
  | .pair t word => [.pair t word]
  | .plain v => [.plain v]
  | .held item => [.held item]

/-- The nodes of the terms of a list. -/
def allNodes : List Term → List Term
  | [] => []
  | t :: ts => nodes t ++ allNodes ts

/-- The nodes of the parameters of a fragment. -/
def paramNodes : List Term → List Term
  | [] => []
  | t :: ts =>
    (match Parameter.ofTerm? t with
      | some _ => []
      | none => nodes t) ++ paramNodes ts

end

theorem allNodes_eq_flatMap (ts : List Term) : allNodes ts = ts.flatMap nodes := by
  induction ts with
  | nil => rfl
  | cons t ts ih => simp [allNodes, ih]

/-- What holds of the nodes of each of some terms holds of the nodes of all of them. -/
theorem forall_allNodes {P : Term → Prop} {ts : List Term} (h : ∀ t ∈ ts, ∀ u ∈ t.nodes, P u) :
    ∀ u ∈ allNodes ts, P u := by
  rw [allNodes_eq_flatMap]
  intro u hu
  obtain ⟨t, ht, hut⟩ := List.mem_flatMap.mp hu
  exact h t ht u hut

/-- What holds of the nodes of some terms, and of every term that joins at least two, holds of the
nodes of the terms joined. -/
theorem forall_nodes_connect {P : Term → Prop} (hP : ∀ op us, 2 ≤ us.length → P (.connected op us))
    {op : Connective} {ts : List Term} {t : Term} (h : connect op ts = .ok t)
    (hts : ∀ u ∈ ts, ∀ v ∈ u.toTerm.nodes, P v) : ∀ v ∈ t.nodes, P v := by
  unfold connect at h
  split at h
  · cases h
  · obtain rfl := Except.ok.inj h
    exact hts _ (by simp)
  · rename_i hnil hone
    obtain rfl := Except.ok.inj h
    refine List.forall_mem_cons.mpr ⟨?_, ?_⟩
    · match ts with
      | [] => exact (hnil rfl).elim
      | [t] => exact (hone t rfl).elim
      | _ :: _ :: _ => exact hP op _ (by simp)
    · exact forall_allNodes (List.forall_mem_map.mpr hts)

/-! ## Bound values -/

mutual

/-- What a term binds, from left to right: the values of its literals and of the parameters of its
fragments. -/
def bound : Term → List Parameter
  | .field .. => []
  | .literal v => [.value v]
  | .held item => [.item item]
  | .binary _ l r => bound l ++ bound r
  | .connected _ ts => allBound ts
  | .not t => bound t
  | .isNull t _ => bound t
  | .inList t vs _ => bound t ++ allBound vs
  | .aggregate _ none _ => []
  | .aggregate _ (some t) _ => bound t
  | .fragment _ ps => paramsBound ps
  | .alias t _ => bound t
  | .order .. => []
  | .pair .. => []
  | .plain _ => []

/-- What the terms of a list bind. -/
def allBound : List Term → List Parameter
  | [] => []
  | t :: ts => bound t ++ allBound ts

/-- What the parameters of a fragment bind. -/
def paramsBound : List Term → List Parameter
  | [] => []
  | t :: ts =>
    (match Parameter.ofTerm? t with
      | some p => [p]
      | none => bound t) ++ paramsBound ts

end

theorem allBound_eq_flatMap (ts : List Term) : allBound ts = ts.flatMap bound := by
  induction ts with
  | nil => rfl
  | cons t ts ih => rw [allBound, List.flatMap_cons, ih]

end Term

end RecordMapper
