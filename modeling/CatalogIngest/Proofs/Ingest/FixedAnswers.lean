import CatalogIngest.Ingest.Ingestion

/-!
# Catalogs with fixed answers

A catalog that is only read answers a question in the same way whenever it is asked, and so does its
builder of names. It may still change, as one does that counts the questions; what matters is a set
of states which asking does not leave. With fixed answers, what comes of resolving a node does not
depend on what was asked before.
-/

namespace CatalogIngest

variable {σ α β : Type}

/-! ## Computations that return one value -/

/-- In certain states a computation returns one value, and it does not leave these states. -/
def Returns (states : σ → Prop) (compute : StateM σ α) (value : α) : Prop :=
  ∀ state, states state → (compute state).1 = value ∧ states (compute state).2

namespace Returns

variable {states : σ → Prop}

theorem pure
    (value : α) :
    Returns states (Pure.pure value) value :=
  fun _ inside => ⟨rfl, inside⟩

/-- What follows a computation goes on from its value. -/
theorem bind
    {compute : StateM σ α}
    {next : α → StateM σ β}
    {value : α}
    {result : β}
    (first : Returns states compute value)
    (second : Returns states (next value) result) :
    Returns states (compute >>= next) result := by
  intro state inside
  obtain ⟨rfl, stays⟩ := first state inside
  exact second _ stays

theorem exists_bind
    {compute : StateM σ α}
    {next : α → StateM σ β}
    {value : α}
    (first : Returns states compute value)
    (second : ∃ result, Returns states (next value) result) :
    ∃ result, Returns states (compute >>= next) result :=
  second.imp fun _ second => first.bind second

theorem exists_eq
    {compute : StateM σ α}
    {value : α}
    (returns : Returns states compute value)
    {state : σ}
    (inside : states state) :
    ∃ after, compute state = (value, after) ∧ states after := by
  obtain ⟨same, stays⟩ := returns state inside
  exact ⟨_, Prod.ext same rfl, stays⟩

/-- A computation that returns one value in a single state leaves that state as it is. -/
theorem leaves
    {state : σ}
    {compute : StateM σ α}
    {value : α}
    (returns : Returns (· = state) compute value) :
    (compute state).2 = state :=
  (returns state rfl).2

end Returns

/-- Computations that are run one after another return the list of what each of them returns. -/
theorem outcomesOf_returns
    {ι : Type}
    {states : σ → Prop}
    {attempt : ι → Attempt σ α}
    {outcome : ι → Except Failure α}
    {items : List ι}
    (each : ∀ item ∈ items, Returns states (attempt item).run (outcome item)) :
    Returns states (outcomesOf (items.map attempt)) (items.map outcome) := by
  induction items with
  | nil => exact .pure []
  | cons item later inductionHypothesis =>
      obtain ⟨first, rest⟩ := List.forall_mem_cons.mp each
      change Returns states
        ((attempt item).run >>= fun outcome => outcomesOf (later.map attempt) >>= fun outcomes =>
          Pure.pure (outcome :: outcomes)) _
      exact first.bind ((inductionHypothesis rest).bind (.pure _))

/-! ## Fixed answers -/

/-- Answers to all questions that a run asks while it resolves data models. -/
structure FixedAnswers where
  names : NameRequest → Except CatalogError (Option String)
  entities : EntityKind → String → Except CatalogError (Option Entity)

/-- The full name of a node's data model in a service, if one is answered. -/
def FixedAnswers.modelName? (answers : FixedAnswers) (service : String) (node : ManifestNode) :
    Option String :=
  (answers.names (node.address.dataModelRequest service)).toOption.join

/-- The reference that a strategy is answered for a pattern, if a name and its entity are answered. -/
def FixedAnswers.reference? (answers : FixedAnswers) (pattern : String)
    (strategy : OwnerStrategy) : Option EntityReference :=
  (answers.names (strategy.request pattern)).toOption.join.bind fun name =>
    (answers.entities strategy.kind name).toOption.join.map Entity.reference

/-- The owner of a relation: what the first strategy that is answered an entity is answered. -/
def FixedAnswers.owner? (answers : FixedAnswers) (strategies : List OwnerStrategy)
    (relation : Option CatalogNode) : Option EntityReference :=
  (relation.bind CatalogNode.owner).bind fun name =>
    strategies.findSome? (answers.reference? (OwnerStrategy.containing name))

/-- What comes of a dependency of a node: the full name that is answered for its table, or a
failure. -/
def FixedAnswers.parentOutcome (answers : FixedAnswers) (artifacts : MergedArtifacts)
    (service : String) (node : ManifestNode) (id : String) : Except Failure String :=
  match artifacts.manifest.get? id with
  | none =>
      .error (.shape .dataModel id
        ("dependency of '" ++ node.uniqueId ++ "' not found in manifest"))
  | some parent =>
      let request := parent.address.tableRequest service
      Context.orFail .dataModel id ("no fully qualified name for " ++ request.shown)
        (answers.names request)

/-- In certain states, which asking does not leave, every question has its fixed answer. -/
structure Context.Fixed (context : Context σ) (answers : FixedAnswers) (states : σ → Prop) :
    Prop where
  build : ∀ request, Returns states (context.names.build request) (answers.names request)
  lookup : ∀ kind name, Returns states (context.client.lookup kind name) (answers.entities kind name)

/-- What the in-memory catalog answers. -/
def Store.answers (store : Store) : FixedAnswers :=
  ⟨fun request => .ok (store.build request), store.lookup⟩

/-- The in-memory catalog is not changed by questions. -/
theorem Context.fixed_inMemory
    (service : String)
    (store : Store) :
    (inMemory service).Fixed store.answers (· = store) := by
  constructor
  · rintro request _ rfl
    exact ⟨rfl, rfl⟩
  · rintro kind name _ rfl
    exact ⟨rfl, rfl⟩

/-! ## Asking as a sequence of computations -/

/-- A strategy looks up the name that is built for it. -/
theorem OwnerStrategy.lookup_eq_bind
    (strategy : OwnerStrategy)
    (context : Context σ)
    (pattern : String) :
    strategy.lookup context pattern =
      bind (m := StateM σ) (context.names.build (strategy.request pattern)) fun answer =>
        match answer with
        | .error error => pure (.error error)
        | .ok none => pure (.ok none)
        | .ok (some name) => context.client.reference strategy.kind name := by
  funext state
  change lookup strategy context pattern state = StateT.bind _ _ state
  unfold lookup StateT.bind
  rcases context.names.build (strategy.request pattern) state with ⟨_ | _ | _, after⟩ <;> rfl

/-- The next strategy is tried unless an entity is found. -/
theorem OwnerStrategy.firstFound_cons
    (context : Context σ)
    (pattern : String)
    (strategy : OwnerStrategy)
    (later : List OwnerStrategy) :
    firstFound context pattern (strategy :: later) =
      bind (m := StateM σ) (strategy.lookup context pattern) fun answer =>
        match answer with
        | .ok (some reference) => pure (some reference)
        | _ => firstFound context pattern later := by
  funext state
  rw [firstFound]
  change _ = StateT.bind _ _ state
  unfold StateT.bind
  dsimp only
  rcases strategy.lookup context pattern state with ⟨_ | _ | _, after⟩ <;> rfl

/-- A node is resolved by asking for its parents, its owner and its name. -/
theorem ModelResolver.resolveNode_eq_bind
    (resolver : ModelResolver σ)
    (key : String)
    (node : ManifestNode) :
    resolver.resolveNode key node = do
      let relation := resolver.artifacts.catalog.get? key
      let (columns, columnFailures) := resolver.columns node relation
      let parents ← resolver.parents node
      let owner ← resolver.owner relation
      let name ← (resolver.context.requireName
        (node.address.dataModelRequest resolver.context.service) .dataModel key).run
      let model := assemble node columns (successes parents) owner
      return ⟨columnFailures ++ failuresAmong parents, name.map fun name => (name, model)⟩ :=
  rfl

theorem ModelResolver.resolveNodes_cons
    (resolver : ModelResolver σ)
    (entry : String × ManifestNode)
    (later : List (String × ManifestNode))
    (resolved : ResolvedModels) :
    resolver.resolveNodes (entry :: later) resolved =
      if entry.2.isTest then resolver.resolveNodes later resolved
      else
        resolver.resolveNode entry.1 entry.2 >>= fun outcome =>
          resolver.resolveNodes later (addOutcome resolved outcome) := by
  funext state
  rw [resolveNodes]
  cases entry.2.isTest <;> rfl

section Fixed

variable
  {context : Context σ}
  {answers : FixedAnswers}
  {states : σ → Prop}
  (fixed : context.Fixed answers states)

include fixed

theorem Context.Fixed.requireName
    (request : NameRequest)
    (stage : Stage)
    (subject : String) :
    Returns states (context.requireName request stage subject).run
      (orFail stage subject ("no fully qualified name for " ++ request.shown)
        (answers.names request)) :=
  show Returns states (context.names.build request >>= fun _ => Pure.pure _) _ from
    (fixed.build request).bind (.pure _)

theorem Context.Fixed.reference
    (kind : EntityKind)
    (name : String) :
    Returns states (context.client.reference kind name)
      ((answers.entities kind name).map (Option.map Entity.reference)) :=
  show Returns states (context.client.lookup kind name >>= fun _ => Pure.pure _) _ from
    (fixed.lookup kind name).bind (.pure _)

namespace OwnerStrategy

theorem lookup_returns
    (strategy : OwnerStrategy)
    (pattern : String) :
    ∃ found, Returns states (strategy.lookup context pattern) found ∧
      found.toOption.join = answers.reference? pattern strategy := by
  rw [lookup_eq_bind, FixedAnswers.reference?]
  have built := fixed.build (strategy.request pattern)
  revert built
  rcases answers.names (strategy.request pattern) with error | (_ | name) <;> intro built
  · exact ⟨.error error, built.bind (.pure _), rfl⟩
  · exact ⟨.ok none, built.bind (.pure _), rfl⟩
  · refine ⟨_, built.bind (fixed.reference strategy.kind name), ?_⟩
    change _ = (answers.entities strategy.kind name).toOption.join.map Entity.reference
    rcases answers.entities strategy.kind name with error | (_ | entity) <;> rfl

/-- The answer of the first strategy that is answered an entity is returned. -/
theorem firstFound_returns
    (pattern : String)
    (strategies : List OwnerStrategy) :
    Returns states (firstFound context pattern strategies)
      (strategies.findSome? (answers.reference? pattern)) := by
  induction strategies with
  | nil => exact .pure none
  | cons strategy later inductionHypothesis =>
      obtain ⟨answer, looked, same⟩ := strategy.lookup_returns fixed pattern
      rw [firstFound_cons, List.findSome?_cons, ← same]
      rcases answer with error | (_ | reference)
      · exact looked.bind inductionHypothesis
      · exact looked.bind inductionHypothesis
      · exact looked.bind (.pure _)

end OwnerStrategy
end Fixed

/-! ## Nodes -/

namespace ModelResolver

/-- The data model of a node as the answers give it: its parents are those that are answered a name,
in the order of its dependencies. -/
def answeredModel (resolver : ModelResolver σ) (answers : FixedAnswers) (key : String)
    (node : ManifestNode) : DataModel :=
  let relation := resolver.artifacts.catalog.get? key
  assemble node (resolver.columns node relation).1
    (successes (node.dependsOn.map
      (answers.parentOutcome resolver.artifacts resolver.context.service node)))
    (answers.owner? resolver.owners relation)

/-- What the resolution of a node contributes, as the answers give it. -/
def answeredOutcome (resolver : ModelResolver σ) (answers : FixedAnswers) (key : String)
    (node : ManifestNode) : NodeOutcome :=
  let request := node.address.dataModelRequest resolver.context.service
  let name := Context.orFail .dataModel key ("no fully qualified name for " ++ request.shown)
    (answers.names request)
  { failures := (resolver.columns node (resolver.artifacts.catalog.get? key)).2 ++
      failuresAmong (node.dependsOn.map
        (answers.parentOutcome resolver.artifacts resolver.context.service node))
    model := name.map fun name => (name, resolver.answeredModel answers key node) }

variable
  {resolver : ModelResolver σ}
  {answers : FixedAnswers}
  {states : σ → Prop}
  (fixed : resolver.context.Fixed answers states)

include fixed

theorem parents_returns
    (node : ManifestNode) :
    Returns states (resolver.parents node)
      (node.dependsOn.map
        (answers.parentOutcome resolver.artifacts resolver.context.service node)) := by
  refine outcomesOf_returns fun id _ => ?_
  unfold parentName FixedAnswers.parentOutcome
  cases resolver.artifacts.manifest.get? id with
  | none => exact .pure _
  | some parent => exact fixed.requireName _ _ _

theorem owner_returns
    (relation : Option CatalogNode) :
    Returns states (resolver.owner relation) (answers.owner? resolver.owners relation) := by
  unfold owner FixedAnswers.owner?
  cases relation.bind CatalogNode.owner with
  | none => exact .pure none
  | some name => exact OwnerStrategy.firstFound_returns fixed _ resolver.owners

/-- Resolving a node returns the outcome that the answers give. -/
theorem resolveNode_returns_answered
    (key : String)
    (node : ManifestNode) :
    Returns states (resolver.resolveNode key node) (resolver.answeredOutcome answers key node) := by
  have named := fixed.requireName (node.address.dataModelRequest resolver.context.service)
    .dataModel key
  rw [resolveNode_eq_bind]
  exact (parents_returns fixed node).bind ((owner_returns fixed _).bind (named.bind (.pure _)))

/-- Resolving a node returns one outcome, with the full name that is answered for its data model. -/
theorem resolveNode_returns
    (key : String)
    (node : ManifestNode) :
    ∃ outcome, Returns states (resolver.resolveNode key node) outcome ∧
      outcome.model.toOption.map Prod.fst = answers.modelName? resolver.context.service node := by
  refine ⟨_, resolveNode_returns_answered fixed key node, ?_⟩
  rw [answeredOutcome, FixedAnswers.modelName?]
  rcases answers.names (node.address.dataModelRequest resolver.context.service) with
    error | (_ | name) <;> rfl

/-- Resolving nodes in turn returns what it returns, whatever was asked before. -/
theorem resolveNodes_returns
    (entries : List (String × ManifestNode))
    (resolved : ResolvedModels) :
    ∃ final, Returns states (resolver.resolveNodes entries resolved) final := by
  induction entries generalizing resolved with
  | nil => exact ⟨resolved, .pure resolved⟩
  | cons entry later inductionHypothesis =>
      rw [resolveNodes_cons]
      split
      · exact inductionHypothesis resolved
      · obtain ⟨outcome, returns, -⟩ := resolveNode_returns fixed entry.1 entry.2
        exact Returns.exists_bind returns (inductionHypothesis _)

end ModelResolver
end CatalogIngest
