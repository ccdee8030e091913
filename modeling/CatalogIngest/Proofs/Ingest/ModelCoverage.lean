import CatalogIngest.Ingest.Ingestion
import CatalogIngest.Proofs.Catalog.CaseName
import CatalogIngest.Proofs.SortedMap

/-!
# Which nodes keep their data model

Every node that is not a test is resolved to a data model under the full name of its table, and with
the in-memory builder of names none is skipped. Where two nodes have one table, the model of the
later key replaces that of the earlier one, and no failure tells of it. So no node is lost exactly
if all of them have different tables.
-/

namespace CatalogIngest

/-- What came of resolving a node. -/
structure Resolution where
  key : String
  node : ManifestNode
  outcome : NodeOutcome

namespace ModelResolver

variable {σ : Type}

/-- What comes of resolving each of some nodes in turn, tests left out. -/
def resolutions (resolver : ModelResolver σ) :
    List (String × ManifestNode) → StateM σ (List Resolution)
  | [] => fun state => ([], state)
  | (key, node) :: later => fun state =>
      if node.isTest then resolver.resolutions later state
      else
        let (outcome, state) := resolver.resolveNode key node state
        let (rest, state) := resolver.resolutions later state
        (⟨key, node, outcome⟩ :: rest, state)

theorem resolutions_cons
    (resolver : ModelResolver σ)
    (entry : String × ManifestNode)
    (later : List (String × ManifestNode))
    (state : σ) :
    (resolver.resolutions (entry :: later) state).1 =
      if entry.2.isTest then (resolver.resolutions later state).1
      else
        ⟨entry.1, entry.2, (resolver.resolveNode entry.1 entry.2 state).1⟩ ::
          (resolver.resolutions later (resolver.resolveNode entry.1 entry.2 state).2).1 := by
  rw [resolutions]
  dsimp only
  split <;> rfl

/-- The nodes that are resolved are those that are no tests, in their order. -/
theorem entries_resolutions
    (resolver : ModelResolver σ)
    (entries : List (String × ManifestNode))
    (state : σ) :
    ((resolver.resolutions entries state).1.map fun resolution =>
        (resolution.key, resolution.node)) =
      entries.filter fun entry => !entry.2.isTest := by
  induction entries generalizing state with
  | nil => rfl
  | cons entry later inductionHypothesis =>
      rw [resolutions_cons]
      cases test : entry.2.isTest with
      | true => simp [test, inductionHypothesis]
      | false => simp [test, inductionHypothesis]

/-- Every resolution is that of a node, at some moment. -/
theorem outcome_of_mem_resolutions
    {resolver : ModelResolver σ}
    {entries : List (String × ManifestNode)}
    {state : σ}
    {resolution : Resolution}
    (member : resolution ∈ (resolver.resolutions entries state).1) :
    ∃ before, resolution.outcome =
      (resolver.resolveNode resolution.key resolution.node before).1 := by
  induction entries generalizing state with
  | nil => nomatch member
  | cons entry later inductionHypothesis =>
      rw [resolutions_cons] at member
      split at member
      · exact inductionHypothesis member
      · rcases List.mem_cons.mp member with rfl | member
        · exact ⟨state, rfl⟩
        · exact inductionHypothesis member

theorem resolveNodes_eq_foldl
    (resolver : ModelResolver σ)
    (entries : List (String × ManifestNode))
    (resolved : ResolvedModels)
    (state : σ) :
    (resolver.resolveNodes entries resolved state).1 =
      ((resolver.resolutions entries state).1.map (·.outcome)).foldl addOutcome resolved := by
  induction entries generalizing resolved state with
  | nil => rfl
  | cons entry later inductionHypothesis =>
      rw [resolutions_cons, resolveNodes]
      dsimp only
      cases entry.2.isTest with
      | true => exact inductionHypothesis resolved state
      | false => exact inductionHypothesis _ _

/-! ## Collecting what nodes contribute -/

/-- The model that a resolution contributes, under its full name. -/
def contribution (resolution : Resolution) : Option (String × DataModel) :=
  resolution.outcome.model.toOption

theorem tests_foldl_addOutcome
    (outcomes : List NodeOutcome)
    (resolved : ResolvedModels) :
    (outcomes.foldl addOutcome resolved).tests = resolved.tests := by
  induction outcomes generalizing resolved with
  | nil => rfl
  | cons outcome later inductionHypothesis =>
      refine (inductionHypothesis _).trans ?_
      unfold addOutcome
      cases outcome.model <;> rfl

theorem models_foldl_addOutcome
    (resolutions : List Resolution)
    (resolved : ResolvedModels) :
    ((resolutions.map (·.outcome)).foldl addOutcome resolved).models =
      resolved.models.insertAll (resolutions.filterMap contribution) := by
  induction resolutions generalizing resolved with
  | nil => rfl
  | cons resolution later inductionHypothesis =>
      refine (inductionHypothesis _).trans ?_
      rw [List.filterMap_cons, contribution, addOutcome]
      cases resolution.outcome.model <;> rfl

end ModelResolver

namespace Resolution

/-- The full name of the table of the node, in a service. -/
def tableName (resolution : Resolution) (service : String) : String :=
  resolution.node.address.fullName service

/-- The node was skipped for a failure. -/
def skipped (resolution : Resolution) : Bool :=
  match resolution.outcome.model with
  | .ok _ => false
  | .error _ => true

/-- The node contributes a model under the full name of its table, in a service. -/
def Contributes (resolution : Resolution) (service : String) (model : DataModel) : Prop :=
  resolution.outcome.model = .ok (resolution.tableName service, model)

end Resolution

theorem ModelResolver.contribution_eq_some
    {resolution : Resolution}
    {service : String}
    {model : DataModel}
    (contributes : resolution.Contributes service model) :
    contribution resolution = some (resolution.tableName service, model) := by
  rw [contribution, contributes]
  rfl

/-- A node is accounted for in a run: its own model is found under the full name of its table, or
there is a failure with its key. -/
def Run.Accounts (run : Run Store) (resolution : Resolution) : Prop :=
  (∃ model, resolution.Contributes run.context.service model ∧
      run.model? (resolution.tableName run.context.service) = some model) ∨
    ∃ failure ∈ run.resolved.failures, failure.subject = resolution.key

namespace ModelResolver

variable {σ : Type}

theorem models_resolveAll
    (resolver : ModelResolver σ)
    (state : σ) :
    (resolver.resolveAll state).1.models =
      SortedMap.ofList
        ((resolver.resolutions resolver.artifacts.manifest.entries state).1.filterMap
          contribution) := by
  rw [resolveAll, resolveNodes_eq_foldl, models_foldl_addOutcome]
  rfl

theorem tests_resolveAll
    (resolver : ModelResolver σ)
    (state : σ) :
    (resolver.resolveAll state).1.tests =
      resolver.artifacts.manifest.filter ManifestNode.isTest := by
  rw [resolveAll, resolveNodes_eq_foldl, tests_foldl_addOutcome]

/-- Every node of the manifest is a test or is resolved. -/
theorem size_tests_add_length_resolutions
    (resolver : ModelResolver σ)
    (state : σ) :
    (resolver.resolveAll state).1.tests.size +
        (resolver.resolutions resolver.artifacts.manifest.entries state).1.length =
      resolver.artifacts.manifest.size := by
  have resolved := congrArg List.length
    (resolver.entries_resolutions resolver.artifacts.manifest.entries state)
  rw [List.length_map] at resolved
  rw [tests_resolveAll, resolved]
  exact (List.length_eq_length_filter_add _).symm

section InMemory

variable
  {resolver : ModelResolver Store}
  (builder : resolver.context.names = Store.nameBuilder)

include builder

/-- With the in-memory builder of names, every node contributes its model. -/
theorem contributes_of_mem_resolutions
    {entries : List (String × ManifestNode)}
    {store : Store}
    {resolution : Resolution}
    (member : resolution ∈ (resolver.resolutions entries store).1) :
    ∃ model, resolution.Contributes resolver.context.service model := by
  obtain ⟨⟨service, client, names, readType⟩, artifacts, owners⟩ := resolver
  cases builder
  obtain ⟨before, own⟩ := outcome_of_mem_resolutions member
  unfold Resolution.Contributes
  rw [own]
  exact ⟨_, rfl⟩

theorem filter_skipped_resolutions
    (entries : List (String × ManifestNode))
    (store : Store) :
    (resolver.resolutions entries store).1.filter Resolution.skipped = [] := by
  refine List.filter_eq_nil_iff.mpr fun resolution member skipped => ?_
  obtain ⟨model, contributes⟩ := contributes_of_mem_resolutions builder member
  rw [Resolution.skipped, contributes] at skipped
  nomatch skipped

/-- The names of what some of the nodes contribute are those of their tables. -/
theorem names_contributions
    {entries : List (String × ManifestNode)}
    {store : Store}
    {chosen : List Resolution}
    (within : chosen ⊆ (resolver.resolutions entries store).1) :
    (chosen.filterMap contribution).map Prod.fst =
      chosen.map (·.tableName resolver.context.service) := by
  induction chosen with
  | nil => rfl
  | cons resolution later inductionHypothesis =>
      obtain ⟨first, rest⟩ := List.cons_subset.mp within
      obtain ⟨model, contributes⟩ := contributes_of_mem_resolutions builder first
      rw [List.filterMap_cons_some (contribution_eq_some contributes), List.map_cons,
        inductionHypothesis rest, List.map_cons]

/-- Under the full name of a table stands the model of the last node with that name. -/
theorem model_of_last
    {store : Store}
    {before after : List Resolution}
    {resolution : Resolution}
    {model : DataModel}
    (split : (resolver.resolutions resolver.artifacts.manifest.entries store).1 =
      before ++ resolution :: after)
    (last : ∀ later ∈ after, later.tableName resolver.context.service ≠
      resolution.tableName resolver.context.service)
    (contributes : resolution.Contributes resolver.context.service model) :
    (resolver.resolveAll store).1.models.get?
      (resolution.tableName resolver.context.service) = some model := by
  have within : after ⊆ (resolver.resolutions resolver.artifacts.manifest.entries store).1 := by
    rw [split]
    exact fun _ member => List.mem_append_right _ (List.mem_cons_of_mem _ member)
  rw [models_resolveAll, split, List.filterMap_append,
    List.filterMap_cons_some (contribution_eq_some contributes)]
  refine SortedMap.get?_insertAll_last _ _ _ model ?_
  rw [names_contributions builder within]
  intro member
  obtain ⟨later, laterMember, same⟩ := List.mem_map.mp member
  exact last later laterMember same

/-- There are as many models as nodes exactly if the full names of their tables are distinct. -/
theorem size_models_eq_iff
    (store : Store) :
    (resolver.resolveAll store).1.models.size =
        (resolver.resolutions resolver.artifacts.manifest.entries store).1.length ↔
      ((resolver.resolutions resolver.artifacts.manifest.entries store).1.map
        (·.tableName resolver.context.service)).Nodup := by
  have names := names_contributions builder (List.Subset.refl
    (resolver.resolutions resolver.artifacts.manifest.entries store).1)
  have sameLength := congrArg List.length names
  rw [List.length_map, List.length_map] at sameLength
  rw [models_resolveAll, ← sameLength, SortedMap.size_ofList_eq_length_iff, names]

end InMemory
end ModelResolver

/-- Resolving a manifest with the in-memory builder of names, and any catalog to look owners up in.
Every node that is no test contributes a model; under the full name of a table stands the model of
the last node with that name; and all nodes are accounted for, and counted once among models, tests
and nodes skipped, exactly if no two nodes have tables of the same full name. -/
theorem Run.nodes_accounted_iff_tables_distinct
    (service : String)
    (client : Client Store)
    (readType : String → DataType)
    (manifest : Manifest)
    (catalog : CatalogArtifact)
    (runResults : Option RunResults)
    (store : Store) :
    let context : Context Store := ⟨service, client, Store.nameBuilder, readType⟩
    let run := (Run.ofArtifacts context manifest catalog runResults store).1
    let entries := run.artifacts.manifest.entries
    let nodes := entries.filter fun entry => !entry.2.isTest
    let resolutions :=
      (ModelResolver.resolutions ⟨context, run.artifacts, OwnerStrategy.standard⟩ entries store).1
    (resolutions.map fun resolution => (resolution.key, resolution.node)) = nodes ∧
      (∀ resolution ∈ resolutions, ∃ model, resolution.Contributes service model) ∧
      (∀ before resolution after model, resolutions = before ++ resolution :: after →
        (∀ later ∈ after, later.tableName service ≠ resolution.tableName service) →
          resolution.Contributes service model →
            run.model? (resolution.tableName service) = some model) ∧
      ((∀ resolution ∈ resolutions, run.Accounts resolution) ∧
          run.models.size + run.tests.size + (resolutions.filter Resolution.skipped).length =
            run.artifacts.manifest.size ↔
        (nodes.map fun entry => entry.2.address.fullName service).Nodup) := by
  intro context run entries nodes resolutions
  let resolver : ModelResolver Store := ⟨context, run.artifacts, OwnerStrategy.standard⟩
  have builder : resolver.context.names = Store.nameBuilder := rfl
  have listed : (resolutions.map fun resolution => (resolution.key, resolution.node)) = nodes :=
    resolver.entries_resolutions entries store
  have contributes : ∀ resolution ∈ resolutions, ∃ model, resolution.Contributes service model :=
    fun _ member => ModelResolver.contributes_of_mem_resolutions builder member
  refine ⟨listed, contributes, fun _ _ _ _ => ModelResolver.model_of_last builder, ?_⟩
  have noneSkipped : resolutions.filter Resolution.skipped = [] :=
    ModelResolver.filter_skipped_resolutions builder entries store
  have everyNode : run.tests.size + resolutions.length = run.artifacts.manifest.size :=
    resolver.size_tests_add_length_resolutions store
  have distinct : run.models.size = resolutions.length ↔
      (resolutions.map (·.tableName service)).Nodup :=
    ModelResolver.size_models_eq_iff builder store
  have names : (nodes.map fun entry => entry.2.address.fullName service) =
      resolutions.map (·.tableName service) := by
    rw [← listed, List.map_map]
    rfl
  rw [noneSkipped, List.length_nil, Nat.add_zero, names, ← distinct]
  constructor
  · rintro ⟨-, counted⟩
    omega
  · intro counted
    refine ⟨fun resolution member => ?_, by omega⟩
    obtain ⟨before, after, split⟩ := List.append_of_mem member
    obtain ⟨model, own⟩ := contributes resolution member
    refine .inl ⟨model, own, ModelResolver.model_of_last builder split ?_ own⟩
    intro later laterMember same
    have apart := distinct.mp counted
    rw [split, List.map_append, List.map_cons] at apart
    refine (List.nodup_cons.mp (List.nodup_append.mp apart).2.1).1 ?_
    exact List.mem_map.mpr ⟨later, laterMember, same⟩

/-- A manifest with two models on one table, the second one by its alias. -/
def Manifest.ordersTwice : Manifest :=
  let model (name table path : String) : Json.Value :=
    .object
      [("name", .string name), ("alias", .string table), ("resource_type", .string "model"),
        ("database", .string "db"), ("schema", .string "sales"),
        ("original_file_path", .string path)]
  { metadata := default
    nodes := .ofList
      [("model.shop.orders", model "orders" "orders" "models/orders.sql"),
        ("model.shop.orders_v2", model "orders_v2" "orders" "models/orders_v2.sql")]
    sources := .empty }

/-- Of two models on one table the first is lost without a failure. -/
theorem Run.model_lost_without_failure :
    let run := (Run.ofArtifacts (Context.inMemory "svc") Manifest.ordersTwice ⟨.empty, .empty⟩ none
      (Store.empty 0)).1
    let resolutions := (ModelResolver.resolutions
      ⟨Context.inMemory "svc", run.artifacts, OwnerStrategy.standard⟩
      run.artifacts.manifest.entries (Store.empty 0)).1
    (∃ resolution ∈ resolutions, ¬ run.Accounts resolution) ∧
      run.models.size + run.tests.size + (resolutions.filter Resolution.skipped).length ≠
        run.artifacts.manifest.size := by
  intro run resolutions
  have paths : (resolutions.head?.map fun resolution =>
      (resolution.outcome.model.toOption.map (·.2.path),
        (run.model? (resolution.tableName "svc")).map (·.path))) =
      some (some "models/orders.sql", some "models/orders_v2.sql") := by decide +kernel
  have noFailures : run.resolved.failures = [] := by decide +kernel
  obtain ⟨first, isFirst, same⟩ := Option.map_eq_some_iff.mp paths
  obtain ⟨ownPath, foundPath⟩ := Prod.mk.inj same
  refine ⟨⟨first, List.mem_of_head? isFirst, ?_⟩, by decide +kernel⟩
  rintro (⟨model, own, found⟩ | ⟨failure, member, -⟩)
  · rw [own] at ownPath
    rw [show run.context.service = "svc" from rfl] at found
    rw [found] at foundPath
    exact absurd (ownPath.symm.trans foundPath) (by decide)
  · rw [noFailures] at member
    nomatch member

end CatalogIngest
