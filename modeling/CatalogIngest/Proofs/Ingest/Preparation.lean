import CatalogIngest.Proofs.Catalog.Registration
import CatalogIngest.Proofs.Ingest.FixedAnswers
import CatalogIngest.Proofs.Ingest.InMemory
import CatalogIngest.Proofs.Ingest.ModelCoverage

/-!
# Preparing a run on the in-memory catalog

Preparing a run asks the catalog for owners and builds names, which changes nothing. Apart from
owners, what is prepared does not depend on the catalog: the tests are those of the manifest, and
the parents of each model are the tables of the nodes that its node depends on.
-/

namespace CatalogIngest

namespace MergedArtifacts

/-- The full names of the tables that the dependencies of a node build, in a service. -/
def parentTables (artifacts : MergedArtifacts) (service : String) (node : ManifestNode) :
    List String :=
  (node.dependsOn.filterMap artifacts.manifest.get?).map fun parent =>
    parent.address.fullName service

/-- The nodes that are no tests, with their keys. -/
def modelNodes (artifacts : MergedArtifacts) : List (String × ManifestNode) :=
  artifacts.manifest.entries.filter fun entry => !entry.2.isTest

/-- The full name of the table of each node that is no test, with the parents of the table. -/
def tableParents (artifacts : MergedArtifacts) (service : String) :
    List (String × List String) :=
  artifacts.modelNodes.map fun entry =>
    (entry.2.address.fullName service, artifacts.parentTables service entry.2)

end MergedArtifacts

/-! ## Nodes -/

namespace ModelResolver

section BuildsIn

variable
  {resolver : ModelResolver Store}
  {service : String}
  (builds : resolver.context.BuildsIn service)

include builds

/-- A dependency that the manifest has gives the name of its table. -/
theorem run_parentName
    (node : ManifestNode)
    (id : String)
    (store : Store) :
    ((resolver.parentName node id).run store).2 = store ∧
      ((resolver.parentName node id).run store).1.toOption =
        (resolver.artifacts.manifest.get? id).map fun parent =>
          parent.address.fullName service := by
  unfold parentName
  cases resolver.artifacts.manifest.get? id with
  | none => exact ⟨rfl, rfl⟩
  | some parent =>
      dsimp only
      rw [builds.run_requireName_table]
      exact ⟨rfl, rfl⟩

/-- The parents of a node are the tables of the nodes it depends on that the manifest has. -/
theorem successes_parents
    (node : ManifestNode)
    (store : Store) :
    successes (resolver.parents node store).1 = resolver.artifacts.parentTables service node := by
  unfold parents MergedArtifacts.parentTables
  induction node.dependsOn with
  | nil => rfl
  | cons id later inductionHypothesis =>
      obtain ⟨same, outcome⟩ := run_parentName builds node id store
      rw [List.map_cons, outcomesOf]
      dsimp only
      revert same outcome
      rcases (resolver.parentName node id).run store with ⟨result, after⟩
      rintro rfl outcome
      dsimp only at outcome inductionHypothesis ⊢
      cases result with
      | error failure =>
          have absent := Option.map_eq_none_iff.mp outcome.symm
          rw [List.filterMap_cons_none absent, ← inductionHypothesis]
          rfl
      | ok name =>
          obtain ⟨parent, found, rfl⟩ := Option.map_eq_some_iff.mp outcome.symm
          rw [List.filterMap_cons_some found, List.map_cons, ← inductionHypothesis]
          rfl

/-- A node contributes a model under the full name of its table, with its parents. -/
theorem model_resolveNode
    (key : String)
    (node : ManifestNode)
    (store : Store) :
    ∃ model, (resolver.resolveNode key node store).1.model =
        .ok (node.address.fullName service, model) ∧
      model.parents = resolver.artifacts.parentTables service node := by
  have parents := successes_parents builds node store
  obtain ⟨sameService, sameBuilder⟩ := builds
  unfold resolveNode
  dsimp only
  unfold Context.requireName
  rw [sameService, sameBuilder]
  exact ⟨_, rfl, parents⟩

/-- But for columns, texts and owners, what nodes contribute does not depend on the catalog. -/
theorem parents_contributions
    (entries : List (String × ManifestNode))
    (store : Store) :
    ((resolver.resolutions entries store).1.filterMap contribution).map
        (fun binding => (binding.1, binding.2.parents)) =
      (entries.filter fun entry => !entry.2.isTest).map fun entry =>
        (entry.2.address.fullName service, resolver.artifacts.parentTables service entry.2) := by
  induction entries generalizing store with
  | nil => rfl
  | cons entry later inductionHypothesis =>
      rw [resolutions_cons]
      cases test : entry.2.isTest with
      | true =>
          rw [if_pos rfl, inductionHypothesis]
          simp [test]
      | false =>
          obtain ⟨model, contributed, parents⟩ := model_resolveNode builds entry.1 entry.2 store
          rw [if_neg Bool.false_ne_true]
          simp [test, contribution, contributed, parents, Except.toOption, inductionHypothesis]

/-- The parents of each model, told from the manifest. -/
theorem parents_resolveAll
    (store : Store) :
    (resolver.resolveAll store).1.models.map DataModel.parents =
      SortedMap.ofList (resolver.artifacts.tableParents service) := by
  rw [models_resolveAll, SortedMap.ofList, SortedMap.map_insertAll, parents_contributions builds]
  rfl

end BuildsIn

theorem fixed_of_inMemory
    {resolver : ModelResolver Store}
    {service : String}
    (inMemory : resolver.context = .inMemory service)
    (store : Store) :
    resolver.context.Fixed store.answers (· = store) := by
  rw [inMemory]
  exact Context.fixed_inMemory service store

/-- Resolving leaves the catalog as it is. -/
theorem resolveNodes_leaves
    {resolver : ModelResolver Store}
    {service : String}
    (inMemory : resolver.context = .inMemory service)
    (entries : List (String × ManifestNode))
    (resolved : ResolvedModels)
    (store : Store) :
    (resolver.resolveNodes entries resolved store).2 = store := by
  obtain ⟨_, returns⟩ := resolveNodes_returns (fixed_of_inMemory inMemory store) entries resolved
  exact returns.leaves

end ModelResolver

/-! ## Runs -/

/-- A run works on some artifacts with the in-memory catalog, and its models have the parents that
the artifacts tell. -/
structure Run.PreparedFrom (run : Run Store) (service : String) (artifacts : MergedArtifacts) :
    Prop where
  inMemory : run.context = .inMemory service
  merged : run.artifacts = artifacts
  tests : run.tests = artifacts.manifest.filter ManifestNode.isTest
  parents : run.models.map DataModel.parents = .ofList (artifacts.tableParents service)

/-- Preparing a run succeeds if it is wanted and there are artifacts, and leaves the catalog as it
is. -/
theorem Run.prepare_inMemory
    (service : String)
    (wanted : Bool)
    (loaded : LoadedArtifacts)
    (store : Store) :
    (∃ manifest catalog run, wanted = true ∧ loaded.manifest = some manifest ∧
        loaded.catalog = some catalog ∧
          prepare (.inMemory service) wanted loaded store = (some run, store) ∧
            run.PreparedFrom service (.of manifest catalog)) ∨
      ((wanted = false ∨ loaded.manifest = none ∨ loaded.catalog = none) ∧
        prepare (.inMemory service) wanted loaded store = (none, store)) := by
  obtain ⟨manifest, catalog, runResults⟩ := loaded
  cases wanted with
  | false => exact .inr ⟨.inl rfl, rfl⟩
  | true =>
      cases manifest with
      | none => exact .inr ⟨.inr (.inl rfl), rfl⟩
      | some manifest =>
          cases catalog with
          | none => exact .inr ⟨.inr (.inr rfl), rfl⟩
          | some catalog =>
              let artifacts := MergedArtifacts.of manifest catalog
              let resolver : ModelResolver Store :=
                ⟨.inMemory service, artifacts, OwnerStrategy.standard⟩
              have builds : resolver.context.BuildsIn service := ⟨rfl, rfl⟩
              have same : (resolver.resolveAll store).2 = store :=
                ModelResolver.resolveNodes_leaves rfl _ _ store
              refine .inl ⟨manifest, catalog,
                ⟨.inMemory service, artifacts, (resolver.resolveAll store).1, runResults⟩,
                rfl, rfl, rfl, ?_, rfl, rfl, resolver.tests_resolveAll store,
                ModelResolver.parents_resolveAll builds store⟩
              unfold prepare ofArtifacts
              exact congrArg (Prod.mk _) same

namespace Run.PreparedFrom

variable
  {run : Run Store}
  {service : String}
  {artifacts : MergedArtifacts}
  (prepared : run.PreparedFrom service artifacts)

include prepared

/-- The models are named for the tables of the nodes that are no tests. -/
theorem mem_keys_iff
    (fullName : String) :
    fullName ∈ run.models.keys ↔
      ∃ entry ∈ artifacts.modelNodes, entry.2.address.fullName service = fullName := by
  rw [← SortedMap.keys_map DataModel.parents, prepared.parents, SortedMap.ofList,
    SortedMap.mem_keys_insertAll, MergedArtifacts.tableParents, List.map_map, List.mem_map]
  exact or_iff_left List.not_mem_nil

/-- The pairs of tables, told from the artifacts. -/
theorem pairs_eq :
    LineagePair.ofModels run.models =
      (SortedMap.ofList (artifacts.tableParents service)).entries.flatMap fun entry =>
        entry.2.map fun parent => ⟨parent, entry.1⟩ := by
  rw [← prepared.parents, LineagePair.ofModels, SortedMap.map, List.flatMap_map]

end Run.PreparedFrom

/-! ## Ingestions -/

namespace Store

theorem registerModels_eq_addEach
    (store : Store)
    (names : List String) :
    store.registerModels names =
      store.addEach
        (names.flatMap fun name => [(.table, name), (.dataModel, name)]) := by
  induction names generalizing store with
  | nil => rfl
  | cons name later inductionHypothesis =>
      rw [List.flatMap_cons, addEach_append]
      exact inductionHypothesis _

theorem grows_registerModels
    (store : Store)
    (names : List String) :
    store.Grows (store.registerModels names) := by
  rw [registerModels_eq_addEach]
  exact store.grows_addEach _

@[simp] theorem faults_registerModels
    (store : Store)
    (names : List String) :
    (store.registerModels names).faults = store.faults := by
  rw [registerModels_eq_addEach, faults_addEach]

/-- Registering models adds their tables, and their data models, which are not listed. -/
theorem contains_registerModels
    (store : Store)
    (names : List String)
    {kind : EntityKind}
    (listed : kind ≠ .dataModel)
    (fullName : String) :
    (store.registerModels names).contains kind fullName = true ↔
      (kind = .table ∧ fullName ∈ names) ∨ store.contains kind fullName = true := by
  rw [registerModels_eq_addEach, contains_addEach]
  apply or_congr_left
  simp [listed, and_comm]

/-- What an ingestion comes to: a run is prepared without touching the catalog, the models are
registered, and the run is executed. -/
theorem ingest_cases
    (service generatedAt : String)
    (wanted : Bool)
    (loaded : LoadedArtifacts)
    (store : Store) :
    (∃ manifest catalog run, wanted = true ∧ loaded.manifest = some manifest ∧
        loaded.catalog = some catalog ∧
          (Run.prepare (.inMemory service) wanted loaded store).1 = some run ∧
            run.PreparedFrom service (.of manifest catalog) ∧
              let executed := run.execute sink (Report.new service generatedAt)
                (store.registerModels run.models.keys)
              store.ingest service generatedAt wanted loaded =
                (some ⟨run.models, executed.1.1, executed.1.2⟩, executed.2)) ∨
      ((wanted = false ∨ loaded.manifest = none ∨ loaded.catalog = none) ∧
        store.ingest service generatedAt wanted loaded = (none, store)) := by
  obtain ⟨manifest, catalog, run, asked, hasManifest, hasCatalog, made, prepared⟩ |
    ⟨missing, unmade⟩ := Run.prepare_inMemory service wanted loaded store
  · refine .inl ⟨manifest, catalog, run, asked, hasManifest, hasCatalog, ?_, prepared, ?_⟩
    · rw [made]
    · unfold ingest
      rw [made]
      rfl
  · refine .inr ⟨missing, ?_⟩
    unfold ingest
    rw [unmade]

end Store
end CatalogIngest
