import Mathlib.Data.List.Forall2
import RecordMapper.Proofs.Query.Nodes
import RecordMapper.Query.Basic

/-! # Replacing values

Two queries that are built in the same way but for the values that they bind. The values at one
place are related; a literal without a value stands for such a literal only. -/

namespace RecordMapper

/-- What a literal binds. -/
def Term.literal? : Term → Option Parameter
  | .literal v => some (.value v)
  | .held item => some (.item item)
  | _ => none

variable (R : Parameter → Parameter → Prop) (S : Value → Value → Prop)

namespace Term

/-- Two terms that differ in what they bind only. `R` relates what is bound, `S` values that stand
where a term should. -/
inductive Revalued : Term → Term → Prop where
  | literal {t u : Term} {p q : Parameter} : t.literal? = some p → u.literal? = some q →
      t.isNullLiteral = u.isNullLiteral → R p q → Revalued t u
  | field (binding name : String) : Revalued (.field binding name) (.field binding name)
  | binary (op : Operator) {l l' r r' : Term} : Revalued l l' → Revalued r r' →
      Revalued (.binary op l r) (.binary op l' r')
  | connected (op : Connective) {ts us : List Term} : List.Forall₂ Revalued ts us →
      Revalued (.connected op ts) (.connected op us)
  | not {t u : Term} : Revalued t u → Revalued (.not t) (.not u)
  | isNull {t u : Term} (negated : Bool) : Revalued t u →
      Revalued (.isNull t negated) (.isNull u negated)
  | inList {t u : Term} {ts us : List Term} (negated : Bool) : Revalued t u →
      List.Forall₂ Revalued ts us → Revalued (.inList t ts negated) (.inList u us negated)
  | aggregateRows (f : AggregateFunction) (distinct : Bool) :
      Revalued (.aggregate f none distinct) (.aggregate f none distinct)
  | aggregate (f : AggregateFunction) {t u : Term} (distinct : Bool) : Revalued t u →
      Revalued (.aggregate f (some t) distinct) (.aggregate f (some u) distinct)
  | fragment (raw : String) {ts us : List Term} :
      List.Forall₂ (fun t u => Revalued t.inPlace u.inPlace) ts us →
      Revalued (.fragment raw ts) (.fragment raw us)
  | named {t u : Term} (name : String) : Revalued t u → Revalued (.alias t name) (.alias u name)
  | order (t u : Term) (d : Direction) : Revalued (.order t d) (.order u d)
  | pair (t u : Term) (word : String) : Revalued (.pair t word) (.pair u word)
  | plain {v w : Value} : S v w → Revalued (.plain v) (.plain w)

end Term

/-- Two clauses that differ in what they bind only. -/
inductive Clause.Revalued : Clause → Clause → Prop where
  | source (name binding : String) : Revalued (.source name binding) (.source name binding)
  | join (target : JoinTarget) (binding : String) {on on' : Option Term} (kind : JoinKind) :
      Option.Rel (Term.Revalued R S) on on' →
      Revalued (.join target binding on kind) (.join target binding on' kind)
  | filter {t u : Term} (onGroups : Bool) (op : Connective) : Term.Revalued R S t u →
      Revalued (.filter t onGroups op) (.filter u onGroups op)
  | select {ts us : List Term} : List.Forall₂ (Term.Revalued R S) ts us →
      Revalued (.select ts) (.select us)
  | distinct : Revalued .distinct .distinct
  | groupBy {ts us : List Term} : List.Forall₂ (Term.Revalued R S) ts us →
      Revalued (.groupBy ts) (.groupBy us)
  | orderBy {xs ys : List (Term × Direction)} :
      List.Forall₂ (fun x y => Term.Revalued R S x.1 y.1 ∧ x.2 = y.2) xs ys →
      Revalued (.orderBy xs) (.orderBy ys)
  | limit {m n : Int} : R (.value (.int m)) (.value (.int n)) → Revalued (.limit m) (.limit n)
  | offset {m n : Int} : R (.value (.int m)) (.value (.int n)) → Revalued (.offset m) (.offset n)
  | fragment (raw : String) {ts us : List Term} :
      List.Forall₂ (fun t u => Term.Revalued R S t.inPlace u.inPlace) ts us →
      Revalued (.fragment raw ts) (.fragment raw us)

/-- Two queries that differ in what they bind only. -/
structure Query.Revalued (q r : Query) : Prop where
  root : Clause.Revalued R S q.root r.root
  rest : List.Forall₂ (Clause.Revalued R S) q.rest r.rest

end RecordMapper
