import CatalogIngest.Proofs.Ingest.ColumnOrder
import CatalogIngest.Proofs.Ingest.ModelCoverage

/-!
# What resolving all nodes gives

With fixed answers, the outcome of resolving a manifest can be told from its nodes: which names have
a data model and from which node it is, and which failures there are and in what order.
-/

namespace CatalogIngest

variable {σ : Type}

/-! ## What the answers tell of a node -/

/-- The failures for the columns of a node that do not decode, in key order. -/
def MergedArtifacts.columnFailures (artifacts : MergedArtifacts) (key : String)
    (node : ManifestNode) : List Failure :=
  match artifacts.catalog.get? key with
  | none => []
  | some relation => relation.unreadableColumns.map (ModelResolver.columnFailure node)

namespace FixedAnswers

variable
  (answers : FixedAnswers)
  (artifacts : MergedArtifacts)
  (service : String)

/-- The full name that is answered for the table of a dependency, if the manifest has it. -/
def parentName? (id : String) : Option String :=
  (artifacts.manifest.get? id).bind fun parent =>
    (answers.names (parent.address.tableRequest service)).toOption.join

/-- The failure for a request that is answered an error or no name. -/
def unnamed? (subject : String) (request : NameRequest) : Option Failure :=
  match answers.names request with
  | .error error => some (.external .dataModel subject error.message)
  | .ok none => some (.miss .dataModel subject ("no fully qualified name for " ++ request.shown))
  | .ok (some _) => none

/-- The failure for a dependency that the manifest lacks, or for whose table no name is answered. -/
def parentFailure? (node : ManifestNode) (id : String) : Option Failure :=
  match artifacts.manifest.get? id with
  | none =>
      some (.shape .dataModel id ("dependency of '" ++ node.uniqueId ++ "' not found in manifest"))
  | some parent => answers.unnamed? id (parent.address.tableRequest service)

/-- The failures of a node: those of its columns, those of its dependencies in their order and, if
no name is answered for its data model, one with its key. -/
def nodeFailures (key : String) (node : ManifestNode) : List Failure :=
  artifacts.columnFailures key node ++
    node.dependsOn.filterMap (answers.parentFailure? artifacts service node) ++
      (answers.unnamed? key (node.address.dataModelRequest service)).toList

/-- Of the nodes that are answered a name for their data models, a node has the greatest key. -/
structure LastNamed (nodes : List (String × ManifestNode)) (name : String)
    (entry : String × ManifestNode) : Prop where
  among : entry ∈ nodes
  named : answers.modelName? service entry.2 = some name
  greatest : ∀ other ∈ nodes, answers.modelName? service other.2 = some name →
    other.1 ≤ entry.1

theorem toOption_parentOutcome
    (node : ManifestNode)
    (id : String) :
    (answers.parentOutcome artifacts service node id).toOption =
      answers.parentName? artifacts service id := by
  unfold parentOutcome parentName?
  cases artifacts.manifest.get? id with
  | none => rfl
  | some parent =>
      dsimp only [Option.bind_some]
      rcases answers.names (parent.address.tableRequest service) with error | (_ | name) <;> rfl

theorem successes_parentOutcomes
    (node : ManifestNode) :
    successes (node.dependsOn.map (answers.parentOutcome artifacts service node)) =
      node.dependsOn.filterMap (answers.parentName? artifacts service) := by
  simp only [successes_map, toOption_parentOutcome]

theorem failuresAmong_parentOutcomes
    (node : ManifestNode) :
    failuresAmong (node.dependsOn.map (answers.parentOutcome artifacts service node)) =
      node.dependsOn.filterMap (answers.parentFailure? artifacts service node) := by
  rw [failuresAmong, List.filterMap_map]
  apply List.filterMap_congr
  intro id _
  rw [Function.comp_apply, parentOutcome, parentFailure?]
  cases artifacts.manifest.get? id with
  | none => rfl
  | some parent =>
      dsimp only [unnamed?]
      rcases answers.names (parent.address.tableRequest service) with error | (_ | name) <;> rfl

/-- Every dependency has given a parent or a failure. -/
theorem length_parents_add_length_failures
    (node : ManifestNode) :
    (node.dependsOn.filterMap (answers.parentName? artifacts service)).length +
        (node.dependsOn.filterMap (answers.parentFailure? artifacts service node)).length =
      node.dependsOn.length := by
  rw [← successes_parentOutcomes answers artifacts service node, ← failuresAmong_parentOutcomes,
    length_successes_add_length_failuresAmong, List.length_map]

end FixedAnswers

namespace ModelResolver

variable
  (resolver : ModelResolver σ)
  (answers : FixedAnswers)

theorem columnFailures_eq
    (key : String)
    (node : ManifestNode) :
    (resolver.columns node (resolver.artifacts.catalog.get? key)).2 =
      resolver.artifacts.columnFailures key node := by
  unfold MergedArtifacts.columnFailures
  cases resolver.artifacts.catalog.get? key with
  | none => rfl
  | some relation => exact resolver.failuresAmong_columnOutcomes node relation

/-- A model is assembled from some parts exactly if each of its fields is what the parts give. -/
theorem eq_assemble_iff
    {node : ManifestNode}
    {columns : List Column}
    {parents : List String}
    {owner : Option EntityReference}
    {model : DataModel} :
    model = assemble node columns parents owner ↔
      model.modelType = .dbt ∧ model.description = node.descriptionText ∧
        model.path = node.sourcePath ∧ model.rawSql = node.rawSql.getD "" ∧
        model.sql = node.compiledSql.getD (node.rawSql.getD "") ∧
        model.columns = columns ∧ model.parents = parents ∧ model.owner = owner := by
  constructor
  · rintro rfl
    exact ⟨rfl, rfl, rfl, rfl, rfl, rfl, rfl, rfl⟩
  · cases model
    dsimp only
    rintro ⟨rfl, rfl, rfl, rfl, rfl, rfl, rfl, rfl⟩
    rfl

theorem answeredModel_eq
    (key : String)
    (node : ManifestNode) :
    resolver.answeredModel answers key node =
      let relation := resolver.artifacts.catalog.get? key
      assemble node (resolver.columns node relation).1
        (node.dependsOn.filterMap
          (answers.parentName? resolver.artifacts resolver.context.service))
        (answers.owner? resolver.owners relation) := by
  rw [answeredModel, FixedAnswers.successes_parentOutcomes]

theorem toOption_model_answeredOutcome
    (key : String)
    (node : ManifestNode) :
    (resolver.answeredOutcome answers key node).model.toOption =
      (answers.modelName? resolver.context.service node).map fun name =>
        (name, resolver.answeredModel answers key node) := by
  rw [answeredOutcome, FixedAnswers.modelName?]
  rcases answers.names (node.address.dataModelRequest resolver.context.service) with
    error | (_ | name) <;> rfl

theorem reported_answeredOutcome
    (key : String)
    (node : ManifestNode) :
    (resolver.answeredOutcome answers key node).reported =
      answers.nodeFailures resolver.artifacts resolver.context.service key node := by
  rw [FixedAnswers.nodeFailures, ← columnFailures_eq, ← FixedAnswers.failuresAmong_parentOutcomes,
    NodeOutcome.reported, answeredOutcome, FixedAnswers.unnamed?]
  rcases answers.names (node.address.dataModelRequest resolver.context.service) with
    error | (_ | name)
  · rfl
  · rfl
  · exact (List.append_nil _).symm

theorem failures_foldl_addOutcome
    (outcomes : List NodeOutcome)
    (resolved : ResolvedModels) :
    (outcomes.foldl addOutcome resolved).failures =
      resolved.failures ++ outcomes.flatMap NodeOutcome.reported := by
  induction outcomes generalizing resolved with
  | nil => simp
  | cons outcome later inductionHypothesis =>
      rw [List.foldl_cons, inductionHypothesis, failures_addOutcome, List.flatMap_cons,
        List.append_assoc]

theorem failures_resolveAll
    (state : σ) :
    (resolver.resolveAll state).1.failures =
      (resolver.resolutions resolver.artifacts.manifest.entries state).1.flatMap fun resolution =>
        resolution.outcome.reported := by
  rw [resolveAll, resolveNodes_eq_foldl, failures_foldl_addOutcome, List.nil_append,
    List.flatMap_map]

/-! ## All nodes -/

/-- The data models that the answers give to some nodes, each under its full name. -/
def answeredModels (nodes : List (String × ManifestNode)) : List (String × DataModel) :=
  nodes.filterMap fun entry =>
    (answers.modelName? resolver.context.service entry.2).map fun name =>
      (name, resolver.answeredModel answers entry.1 entry.2)

theorem mem_names_answeredModels
    (nodes : List (String × ManifestNode))
    (name : String) :
    name ∈ (resolver.answeredModels answers nodes).map Prod.fst ↔
      ∃ entry ∈ nodes, answers.modelName? resolver.context.service entry.2 = some name := by
  simp [answeredModels]

/-- When the nodes are in key order, the model that is found under a name is that of the node with
the greatest key among those that are answered the name. -/
theorem get?_answeredModels_eq_some_iff
    {nodes : List (String × ManifestNode)}
    (increasing : nodes.Pairwise fun first second => first.1 < second.1)
    (name : String)
    (model : DataModel) :
    (SortedMap.ofList (resolver.answeredModels answers nodes)).get? name = some model ↔
      ∃ entry, answers.LastNamed resolver.context.service nodes name entry ∧
        model = resolver.answeredModel answers entry.1 entry.2 := by
  rw [SortedMap.get?_ofList_eq_some_iff]
  constructor
  · rintro ⟨before, after, split, last⟩
    obtain ⟨front, back, rfl, rfl, fromHere⟩ := List.filterMap_eq_append_iff.mp split
    obtain ⟨skipped, entry, rest, rfl, -, made, rfl⟩ := List.filterMap_eq_cons_iff.mp fromHere
    obtain ⟨own, named, same⟩ := Option.map_eq_some_iff.mp made
    obtain ⟨rfl, rfl⟩ := Prod.mk.inj same
    rw [← List.append_assoc] at increasing ⊢
    obtain ⟨-, -, below⟩ := List.pairwise_append.mp increasing
    refine ⟨entry, ⟨by simp, named, fun other member otherNamed => ?_⟩, rfl⟩
    rcases List.mem_append.mp member with inFront | here
    · have lesser := below other inFront entry List.mem_cons_self
      exact String.not_lt.mp fun above => String.lt_irrefl _ (String.lt_trans lesser above)
    · rcases List.mem_cons.mp here with rfl | later
      · exact String.le_refl _
      · exact absurd ((resolver.mem_names_answeredModels answers rest own).mpr
          ⟨other, later, otherNamed⟩) last
  · rintro ⟨entry, lastNamed, rfl⟩
    obtain ⟨front, back, rfl⟩ := List.append_of_mem lastNamed.among
    obtain ⟨-, fromHere, -⟩ := List.pairwise_append.mp increasing
    refine ⟨resolver.answeredModels answers front, resolver.answeredModels answers back, ?_, ?_⟩
    · simp [answeredModels, lastNamed.named]
    · intro bound
      obtain ⟨other, later, otherNamed⟩ :=
        (resolver.mem_names_answeredModels answers back name).mp bound
      have notAbove := lastNamed.greatest other
        (List.mem_append_right _ (List.mem_cons_of_mem _ later)) otherNamed
      exact String.not_lt.mpr notAbove ((List.pairwise_cons.mp fromHere).1 other later)

section Fixed

variable
  {resolver : ModelResolver σ}
  {answers : FixedAnswers}
  {states : σ → Prop}
  (fixed : resolver.context.Fixed answers states)

include fixed

/-- Every node that is no test is resolved as the answers give it. -/
theorem resolutions_answered
    (entries : List (String × ManifestNode))
    {state : σ}
    (inside : states state) :
    (resolver.resolutions entries state).1 =
      (entries.filter fun entry => !entry.2.isTest).map fun entry =>
        ⟨entry.1, entry.2, resolver.answeredOutcome answers entry.1 entry.2⟩ := by
  induction entries generalizing state with
  | nil => rfl
  | cons entry later inductionHypothesis =>
      rw [resolutions_cons]
      cases test : entry.2.isTest with
      | true => simp [test, inductionHypothesis inside]
      | false =>
          obtain ⟨own, stays⟩ := resolveNode_returns_answered fixed entry.1 entry.2 state inside
          simp [test, own, inductionHypothesis stays]

/-- The data models are those that the answers give, a later one replacing an earlier one. -/
theorem models_resolveAll_answered
    {state : σ}
    (inside : states state) :
    (resolver.resolveAll state).1.models =
      .ofList (resolver.answeredModels answers
        (resolver.artifacts.manifest.entries.filter fun entry => !entry.2.isTest)) := by
  rw [models_resolveAll, resolutions_answered fixed _ inside, List.filterMap_map]
  refine congrArg SortedMap.ofList (List.filterMap_congr fun entry _ => ?_)
  exact resolver.toOption_model_answeredOutcome answers entry.1 entry.2

/-- The failures are those that the answers give, node by node. -/
theorem failures_resolveAll_answered
    {state : σ}
    (inside : states state) :
    (resolver.resolveAll state).1.failures =
      (resolver.artifacts.manifest.entries.filter fun entry => !entry.2.isTest).flatMap fun entry =>
        answers.nodeFailures resolver.artifacts resolver.context.service entry.1 entry.2 := by
  rw [failures_resolveAll, resolutions_answered fixed _ inside, List.flatMap_map]
  simp only [reported_answeredOutcome]

end Fixed

/-- Resolving a manifest with fixed answers, any names and errors among them. The tests are the
entities of this resource type. There is a data model for each name that is answered for some other
entity, and it is built from the one with the greatest key: its texts are those of that entity, its
columns and its owner come from the relation of the same key, and its parents are the names that are
answered for the tables of its dependencies in the manifest, in their order. The failures are those
of the entities that are no tests, in key order; each dependency gives a parent or a failure. -/
theorem resolveAll_by_answers
    {context : Context σ}
    {answers : FixedAnswers}
    {states : σ → Prop}
    (fixed : context.Fixed answers states)
    (artifacts : MergedArtifacts)
    (owners : List OwnerStrategy)
    {state : σ}
    (inside : states state) :
    let resolver : ModelResolver σ := ⟨context, artifacts, owners⟩
    let entities := artifacts.manifest.entries
    let nodes := entities.filter fun entry => entry.2.resourceType ≠ "test"
    let resolved := (resolver.resolveAll state).1
    let parents (node : ManifestNode) : List String :=
      node.dependsOn.filterMap (answers.parentName? artifacts context.service)
    (resolved.tests.entries = entities.filter fun entry => entry.2.resourceType = "test") ∧
      (∀ name, name ∈ resolved.models.keys ↔
        ∃ entry ∈ nodes, answers.modelName? context.service entry.2 = some name) ∧
      (∀ name model, resolved.models.get? name = some model ↔
        ∃ entry, answers.LastNamed context.service nodes name entry ∧
          let relation := artifacts.catalog.get? entry.1
          model.modelType = .dbt ∧ model.description = entry.2.descriptionText ∧
            model.path = entry.2.sourcePath ∧ model.rawSql = entry.2.rawSql.getD "" ∧
            model.sql = entry.2.compiledSql.getD (entry.2.rawSql.getD "") ∧
            model.columns = (resolver.columns entry.2 relation).1 ∧
            model.parents = parents entry.2 ∧ model.owner = answers.owner? owners relation) ∧
      (resolved.failures =
        nodes.flatMap fun entry =>
          answers.nodeFailures artifacts context.service entry.1 entry.2) ∧
      ∀ entry ∈ nodes, (parents entry.2).length +
          (entry.2.dependsOn.filterMap
            (answers.parentFailure? artifacts context.service entry.2)).length =
        entry.2.dependsOn.length := by
  intro resolver entities nodes resolved parents
  have noTests : nodes = entities.filter fun entry => !entry.2.isTest :=
    List.filter_congr fun entry _ => by simp [ManifestNode.isTest]
  have fixedHere : resolver.context.Fixed answers states := fixed
  have models : resolved.models = .ofList (resolver.answeredModels answers nodes) := by
    rw [noTests]
    exact models_resolveAll_answered fixedHere inside
  have increasing : nodes.Pairwise fun first second => first.1 < second.1 :=
    artifacts.manifest.increasing.filter _
  refine ⟨?_, fun name => ?_, fun name model => ?_, ?_, fun entry _ => ?_⟩
  · exact congrArg SortedMap.entries (resolver.tests_resolveAll state)
  · rw [models, SortedMap.ofList, SortedMap.mem_keys_insertAll, mem_names_answeredModels]
    exact or_iff_left List.not_mem_nil
  · rw [models, get?_answeredModels_eq_some_iff resolver answers increasing]
    simp only [answeredModel_eq, eq_assemble_iff]
    rfl
  · rw [noTests]
    exact failures_resolveAll_answered fixedHere inside
  · exact answers.length_parents_add_length_failures artifacts context.service entry.2

/-- Of two nodes on one table the one with the greater key has the data model, with its column, its
owner and, without the dependency that is missing, its parents in order. The missing dependencies of
both are failures. -/
theorem resolveAll_by_answers_on_one_table :
    let second : ManifestNode :=
      { (default : ManifestNode) with
        uniqueId := "model.shop.orders_v2", name := "orders_v2", tableAlias := some "orders"
        filePath := "orders_v2.sql"
        dependsOn := ["model.shop.orders", "model.shop.gone", "model.shop.customers"] }
    let relation : CatalogNode :=
      { metadata := { (default : RelationMetadata) with owner := some "jane" }
        columns := .ofList [("ID", CatalogColumn.encode ⟨"ID", "integer", 1, none⟩)]
        uniqueId := none }
    let artifacts : MergedArtifacts :=
      .ordersAmong [("model.shop.orders_v2", second)] [("model.shop.orders_v2", relation)]
    let store := ((Store.empty 0).addEntity .user "jane").2
    let resolved := (resolveAll ⟨.inMemory "svc", artifacts, OwnerStrategy.standard⟩ store).1
    (∃ model, resolved.models.get? "svc.default.default.orders" = some model ∧
      model.path = "orders_v2.sql" ∧ model.columns.map Column.name = ["id"] ∧
      model.parents = ["svc.default.default.orders", "svc.default.default.customers"] ∧
      model.owner.map EntityReference.type = some "user") ∧
      resolved.failures =
        [.shape .dataModel "model.shop.missing"
            "dependency of 'model.shop.orders' not found in manifest",
          .shape .dataModel "model.shop.gone"
            "dependency of 'model.shop.orders_v2' not found in manifest"] := by
  intro second relation artifacts store resolved
  obtain ⟨-, -, models, failures, -⟩ :=
    resolveAll_by_answers (Context.fixed_inMemory "svc" store) artifacts OwnerStrategy.standard rfl
  have lastNamed : store.answers.LastNamed "svc"
      (artifacts.manifest.entries.filter fun entry => entry.2.resourceType ≠ "test")
      "svc.default.default.orders" ("model.shop.orders_v2", second) := by
    refine ⟨List.mem_filter.mpr ⟨?_, by decide⟩, by decide +kernel, by decide +kernel⟩
    refine (SortedMap.get?_eq_some_iff _ _ _).mp ?_
    simp [artifacts, MergedArtifacts.ordersAmong, SortedMap.ofList, SortedMap.insertAll,
      SortedMap.get?_insert]
  refine ⟨⟨_, (models _ ⟨.dbt, none, "orders_v2.sql", "", "", _, _, _⟩).mpr
    ⟨_, lastNamed, rfl, rfl, rfl, rfl, rfl, rfl, rfl, rfl⟩, rfl, ?_, ?_, ?_⟩,
    failures.trans (by decide +kernel)⟩
  · decide +kernel
  · decide +kernel
  · decide +kernel

end ModelResolver
end CatalogIngest
