import RecordMapper.Schema.Registry
import RecordMapper.Sql.Error

/-! # Plans

The clauses of a query, sorted by the parts of the statement that they go into. Names are bound to
relations, and associations are turned into conditions. -/

namespace RecordMapper

/-- What a name is bound to: a relation, and its schema if that is registered. -/
structure Bound where
  name : String
  relation : String
  schema : Option Descriptor

/-- A join. Its condition can name what is visible, which is all that is bound so far. -/
structure PlannedJoin where
  kind : JoinKind
  joined : Bound
  condition : Term
  visible : List Bound

/-- The parts of a statement. -/
structure Plan where
  source : Bound
  bindings : List Bound
  joins : List PlannedJoin
  condition : Option Term
  groupCondition : Option Term
  projection : Option (List Term)
  distinct : Bool
  groupBy : List Term
  orderBy : List (Term × Direction)
  limit : Option Int
  offset : Option Int
  fragments : List (String × List Term)

namespace Plan

/-- What is bound to a name. -/
def lookUp (bindings : List Bound) (name : String) : Option Bound :=
  bindings.find? (·.name == name)

/-- A condition joined to the one before. -/
def combine (before : Option Term) (op : Connective) (condition : Term) : Term :=
  match before with
  | none => condition
  | some t => .connected op [t, condition]

/-- The schema of a name, if there are schemas. -/
def resolve? (registry : Option Registry) (name : String) : Option Descriptor :=
  registry.bind (·.resolve? name)

/-- Binds a name to a relation or a schema given by name. -/
def bind (registry : Option Registry) (name source : String) : Bound :=
  let schema := resolve? registry source
  ⟨name, (schema.map Descriptor.relation).getD source, schema⟩

/-- Binds a name to what a relationship leads to, and gives the condition of the join. -/
def follow (registry : Option Registry) (bindings : List Bound) (name binding : String)
    (relationship : String) : Except CompileError (Bound × Term) :=
  match lookUp bindings binding with
  | none => .error (.unboundAssociation binding)
  | some owner =>
    match owner.schema, registry with
    | some schema, some registry =>
      match registry.joint schema relationship with
      | .error e => .error (.lookup e)
      | .ok joint =>
        .ok (⟨name, joint.related.relation, some joint.related⟩,
          .binary .eq (.field name joint.relatedKey) (.field owner.name joint.ownerKey))
    | _, _ => .error (.noSchema owner.name relationship)

/-- What a join binds, and the condition of the join. -/
def introduce (registry : Option Registry) (bindings : List Bound) (binding : String) :
    JoinTarget → Option Term → Except CompileError (Bound × Term)
  | .association owner relationship, on => do
    let (joined, derived) ← follow registry bindings binding owner relationship
    return (joined, match on with
      | none => derived
      | some t => .connected .and [derived, t])
  | .relation _, none => .error (.noCondition binding)
  | .relation name, some t => .ok (bind registry binding name, t)

/-- A plan with one more join. -/
def addJoin (registry : Option Registry) (p : Plan) (target : JoinTarget) (binding : String)
    (on : Option Term) (kind : JoinKind) : Except CompileError Plan :=
  if (lookUp p.bindings binding).isSome then .error (.bindingTaken binding)
  else do
    let (joined, condition) ← introduce registry p.bindings binding target on
    let bindings := p.bindings ++ [joined]
    return { p with bindings, joins := p.joins ++ [⟨kind, joined, condition, bindings⟩] }

/-- A plan with one more clause. -/
def add (registry : Option Registry) (p : Plan) (c : Clause) : Except CompileError Plan :=
  match c with
  | .source .. => .error (.unknownClause c.className)
  | .join target binding on kind => p.addJoin registry target binding on kind
  | .filter t false op => .ok { p with condition := some (combine p.condition op t) }
  | .filter t true op => .ok { p with groupCondition := some (combine p.groupCondition op t) }
  | .select ts => .ok { p with projection := some ts }
  | .distinct => .ok { p with distinct := true }
  | .groupBy ts => .ok { p with groupBy := p.groupBy ++ ts }
  | .orderBy ts => .ok { p with orderBy := p.orderBy ++ ts }
  | .limit n => .ok { p with limit := some n }
  | .offset n => .ok { p with offset := some n }
  | .fragment raw params => .ok { p with fragments := p.fragments ++ [(raw, params)] }

/-- The plan of a source alone. -/
def ofSource (source : Bound) : Plan :=
  ⟨source, [source], [], none, none, none, false, [], [], none, none, []⟩

/-- The plan of a query. -/
def ofQuery (registry : Option Registry) (q : Query) : Except CompileError Plan :=
  match q.root with
  | .source name binding => q.rest.foldlM (add registry) (ofSource (bind registry binding name))
  | root => .error (.noSource root.className)

/-- Whether a plan is a source with conditions on rows. -/
def isBulk (p : Plan) : Bool :=
  p.joins.isEmpty && p.projection.isNone && p.groupBy.isEmpty && p.groupCondition.isNone &&
    p.orderBy.isEmpty && p.limit.isNone && p.offset.isNone && !p.distinct && p.fragments.isEmpty

end Plan

end RecordMapper
