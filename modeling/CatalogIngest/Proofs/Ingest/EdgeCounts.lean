import CatalogIngest.Proofs.Ingest.Completeness

/-!
# How many edges a run counts

The parents of a data model are listed dependency by dependency, so a table that two dependencies
share is listed twice, and an edge is requested twice from it. The catalog keeps the edge once, while
the report counts both requests. So a run has one edge for each pair of tables exactly if no two
dependencies of a node share a table.
-/

namespace CatalogIngest

/-! ## Tables of dependencies -/

namespace MergedArtifacts

variable
  (artifacts : MergedArtifacts)
  (service : String)

/-- The full name of the table of an entity of the manifest. -/
def tableOf? (id : String) : Option String :=
  (artifacts.manifest.get? id).map fun node => node.address.fullName service

/-- No two of some entities of the manifest have tables of the same full name. -/
def HaveOwnTables (ids : List String) : Prop :=
  ids.Pairwise fun first second =>
    ∀ table ∈ artifacts.tableOf? service first, table ∉ artifacts.tableOf? service second

instance (ids : List String) : Decidable (artifacts.HaveOwnTables service ids) :=
  inferInstanceAs (Decidable (ids.Pairwise fun first second =>
    ∀ table ∈ artifacts.tableOf? service first, table ∉ artifacts.tableOf? service second))

/-- Of the nodes that are no tests, a node is the last one on its table. -/
def LastOnTable (entry : String × ManifestNode) : Prop :=
  ∃ before after, artifacts.modelNodes = before ++ entry :: after ∧
    ∀ later ∈ after, later.2.address.fullName service ≠ entry.2.address.fullName service

theorem parentTables_eq
    (node : ManifestNode) :
    artifacts.parentTables service node =
      node.dependsOn.filterMap (artifacts.tableOf? service) := by
  rw [parentTables, List.map_filterMap]
  rfl

/-- The tables of some entities are listed without repetition exactly if they have their own. -/
theorem nodup_tables_iff
    (ids : List String) :
    (ids.filterMap (artifacts.tableOf? service)).Nodup ↔ artifacts.HaveOwnTables service ids := by
  rw [List.Nodup, List.pairwise_filterMap]
  refine List.Pairwise.iff fun first second => ?_
  constructor
  · intro apart table ofFirst ofSecond
    exact apart table ofFirst table ofSecond rfl
  · rintro apart table ofFirst _ ofSecond rfl
    exact apart table ofFirst ofSecond

theorem nodup_parentTables_iff
    (node : ManifestNode) :
    (artifacts.parentTables service node).Nodup ↔
      artifacts.HaveOwnTables service node.dependsOn := by
  rw [parentTables_eq, nodup_tables_iff]

/-- What the nodes tell of a table is told by the last node on it. -/
theorem get?_tableParents_eq_some_iff
    (name : String)
    (parents : List String) :
    (SortedMap.ofList (artifacts.tableParents service)).get? name = some parents ↔
      ∃ entry, artifacts.LastOnTable service entry ∧
        entry.2.address.fullName service = name ∧
          artifacts.parentTables service entry.2 = parents := by
  rw [SortedMap.get?_ofList_eq_some_iff, tableParents]
  constructor
  · rintro ⟨before, after, split, last⟩
    obtain ⟨front, rest, nodes, rfl, fromHere⟩ := List.map_eq_append_iff.mp split
    obtain ⟨entry, back, rfl, own, rfl⟩ := List.map_eq_cons_iff.mp fromHere
    obtain ⟨rfl, rfl⟩ := Prod.mk.inj own
    refine ⟨entry, ⟨front, back, nodes, fun later member same => last ?_⟩, rfl, rfl⟩
    rw [List.map_map]
    exact List.mem_map.mpr ⟨later, member, same⟩
  · rintro ⟨entry, ⟨front, back, nodes, last⟩, rfl, rfl⟩
    rw [nodes, List.map_append, List.map_cons]
    refine ⟨_, _, rfl, fun bound => ?_⟩
    rw [List.map_map] at bound
    obtain ⟨later, member, same⟩ := List.mem_map.mp bound
    exact last later member same

end MergedArtifacts

/-! ## Parents of models -/

/-- No data model lists a parent twice. -/
def ParentsOnce (models : SortedMap DataModel) : Prop :=
  ∀ name model, models.get? name = some model → model.parents.Nodup

namespace ModelResolver

variable
  {resolver : ModelResolver Store}
  {service : String}
  (builds : resolver.context.BuildsIn service)
  (store : Store)

include builds

/-- The model of a table has the parents that the last node on it tells. -/
theorem exists_model_iff
    (name : String)
    (parents : List String) :
    (∃ model, (resolver.resolveAll store).1.models.get? name = some model ∧
        model.parents = parents) ↔
      ∃ entry, resolver.artifacts.LastOnTable service entry ∧
        entry.2.address.fullName service = name ∧
          resolver.artifacts.parentTables service entry.2 = parents := by
  rw [← resolver.artifacts.get?_tableParents_eq_some_iff, ← parents_resolveAll builds store,
    SortedMap.get?_map, Option.map_eq_some_iff]

theorem parentsOnce_iff :
    ParentsOnce (resolver.resolveAll store).1.models ↔
      ∀ entry, resolver.artifacts.LastOnTable service entry →
        resolver.artifacts.HaveOwnTables service entry.2.dependsOn := by
  constructor
  · intro once entry last
    obtain ⟨model, found, same⟩ :=
      (exists_model_iff builds store _ _).mpr ⟨entry, last, rfl, rfl⟩
    rw [← resolver.artifacts.nodup_parentTables_iff, ← same]
    exact once _ model found
  · intro own name model found
    obtain ⟨entry, last, -, same⟩ := (exists_model_iff builds store _ _).mp ⟨model, found, rfl⟩
    rw [← same, resolver.artifacts.nodup_parentTables_iff]
    exact own entry last

end ModelResolver

/-- No pair of tables is listed twice exactly if no model lists a parent twice. -/
theorem LineagePair.nodup_ofModels_iff
    (models : SortedMap DataModel) :
    (ofModels models).Nodup ↔ ParentsOnce models := by
  have marked : ∀ entry : String × DataModel,
      ∀ pair ∈ entry.2.parents.map fun parent => LineagePair.mk parent entry.1,
        pair.model = entry.1 := by
    rintro entry _ member
    obtain ⟨parent, -, rfl⟩ := List.mem_map.mp member
    rfl
  have oneModel : ∀ entry : String × DataModel,
      (entry.2.parents.map fun parent => LineagePair.mk parent entry.1).Nodup ↔
        entry.2.parents.Nodup :=
    fun entry => List.nodup_map_iff fun _ _ same => (LineagePair.mk.inj same).1
  rw [ofModels, nodup_flatMap_iff_of_marks marked models.nodup_keys]
  constructor
  · intro once name model found
    exact (oneModel (name, model)).mp (once _ ((SortedMap.get?_eq_some_iff _ _ _).mp found))
  · intro once entry member
    exact (oneModel entry).mpr (once entry.1 entry.2 ((SortedMap.get?_eq_some_iff _ _ _).mpr member))

/-! ## One pass over the pairs -/

/-- One pass yields one item for each pair that is listed, in the order of the pairs. -/
theorem LineagePair.forall₂_pass
    {σ : Type}
    (context : Context σ)
    (models : SortedMap DataModel)
    (state : σ) :
    List.Forall₂ (fun pair item => ∃ before, ((pair.request context).run before).1 = item)
      (ofModels models) ((lineageSequence context models).pullAll state).1.1 := by
  unfold lineageSequence LazySequence.ofJobs LazySequence.pullAll
  induction ofModels models generalizing state with
  | nil => exact .nil
  | cons pair later inductionHypothesis =>
      exact .cons ⟨state, rfl⟩ (inductionHypothesis _)

/-! ## Edges of the catalog -/

namespace Store

/-- A newer catalog has the edges of an older one and no others. -/
def SameEdges (older newer : Store) : Prop :=
  newer.lineage = older.lineage

theorem following_sameEdges : Following SameEdges where
  refl _ := rfl
  trans early late := late.trans early

theorem sameEdges_addEntity
    (store : Store)
    (kind : EntityKind)
    (fullName : String) :
    store.SameEdges (store.addEntity kind fullName).2 :=
  store.lineage_addEntity kind fullName

theorem sameEdges_deliverSetup
    (request : SetupRequest)
    (store : Store) :
    store.SameEdges (sink.deliverSetup request store).2 := by
  cases request with
  | suite request =>
      rw [Sink.deliverSetup, Sink.outcome_snd]
      change store.SameEdges (store.createSuite request).2
      rcases store.createSuite_snd request with same | same <;> rw [same]
      · exact following_sameEdges.refl store
      · exact store.sameEdges_addEntity _ _
  | definition request =>
      rw [Sink.deliverSetup, Sink.outcome_snd]
      change store.SameEdges (store.createDefinition request).2
      rcases store.createDefinition_snd request with same | same <;> rw [same]
      · exact following_sameEdges.refl store
      · exact store.sameEdges_addEntity _ _

theorem sameEdges_deliverCase
    (request : CaseRequest)
    (store : Store) :
    store.SameEdges (sink.deliverCase request store).2 := by
  rw [deliverCase_eq]
  cases store.refusalOfCase request with
  | some failure => rfl
  | none => exact store.sameEdges_addEntity _ _

theorem sameEdges_submit
    (store : Store)
    (fullName : String)
    (result : TestResult) :
    store.SameEdges (store.submit fullName result).2 := by
  rcases store.submit_cases fullName result with ⟨error, refused⟩ | ⟨-, accepted⟩
  · rw [refused]
    rfl
  · rw [accepted]
    rfl

theorem mem_lineage_addLineage
    (store : Store)
    (request : LineageRequest)
    (edge : LineageEdge) :
    edge ∈ (store.addLineage request).lineage ↔ edge = request.edge ∨ edge ∈ store.lineage := by
  unfold addLineage
  split
  · next present =>
    refine ⟨.inr, ?_⟩
    rintro (rfl | before)
    · exact present
    · exact before
  · rw [List.mem_append, List.mem_singleton, or_comm]

/-- After handing lineage items over, the catalog has the edges it had and those requested. -/
theorem mem_lineage_deliverAll
    (items : List (Except Failure LineageRequest))
    (store : Store)
    (edge : LineageEdge) :
    edge ∈ (deliverAll sink.deliverLineage items store).lineage ↔
      edge ∈ (successes items).map LineageRequest.edge ∨ edge ∈ store.lineage := by
  induction items generalizing store with
  | nil => simp [deliverAll, successes]
  | cons item later inductionHypothesis =>
      cases item with
      | error failure => exact inductionHypothesis store
      | ok request =>
          refine (inductionHypothesis (store.addLineage request)).trans ?_
          rw [mem_lineage_addLineage, ← or_assoc]
          refine or_congr_left ?_
          rw [or_comm]
          exact List.mem_cons.symm

/-- Different pairs of tables have different edges. -/
theorem Sound.pair_eq_of_edgeOf
    {store : Store}
    (sound : store.Sound)
    {first second : LineagePair}
    {request : LineageRequest}
    (ofFirst : store.edgeOf first = some request)
    (ofSecond : store.edgeOf second = some request) :
    first = second := by
  have left := sound.leadsAlong_of_edgeOf ofFirst
  have right := sound.leadsAlong_of_edgeOf ofSecond
  obtain ⟨parent, model⟩ := first
  obtain ⟨otherParent, otherModel⟩ := second
  obtain rfl := sound.fullName_eq_of_referenceTo? left.source right.source
  obtain rfl := sound.fullName_eq_of_referenceTo? left.target right.target
  rfl

/-- No edge is requested twice exactly if no pair is listed twice whose tables look-ups find. -/
theorem Sound.nodup_edges_iff
    {store : Store}
    (sound : store.Sound)
    (pairs : List LineagePair) :
    ((pairs.filterMap store.edgeOf).map LineageRequest.edge).Nodup ↔
      (pairs.filter fun pair => (store.edgeOf pair).isSome).Nodup := by
  have apart : Function.Injective LineageRequest.edge := by
    rintro ⟨_⟩ ⟨_⟩ rfl
    rfl
  rw [List.nodup_map_iff apart, List.Nodup, List.pairwise_filterMap, List.Nodup,
    List.pairwise_filter]
  refine List.Pairwise.iff fun first second => ?_
  simp only [Option.isSome_iff_exists]
  constructor
  · rintro different ⟨request, ofFirst⟩ _ rfl
    exact different request ofFirst request ofFirst rfl
  · rintro different request ofFirst _ ofSecond rfl
    exact different ⟨request, ofFirst⟩ ⟨request, ofSecond⟩ (sound.pair_eq_of_edgeOf ofFirst ofSecond)

end Store

/-! ## Executions -/

namespace Run

/-- The report counts the lineage requests that were accepted. -/
theorem lineageEdges_execute
    {σ : Type}
    (run : Run σ)
    (sink : Sink σ)
    (report : Report)
    (state : σ) :
    (run.execute sink report state).1.2.summary.lineageEdges =
      (run.execute sink report state).1.1.lineage.length := by
  obtain ⟨ledger, final, -, executed⟩ := run.execute_settled sink report state
  rw [executed, summary_reportOn]

variable
  {run : Run Store}
  {service : String}
  (inMemory : run.context = .inMemory service)
  (report : Report)
  (store : Store)

include inMemory

theorem mem_lineage_forward_lineage
    (edge : LineageEdge) :
    edge ∈ (run.lineage.forward Store.sink.deliverLineage report store).2.lineage ↔
      edge ∈ ((LineagePair.ofModels run.models).filterMap store.edgeOf).map LineageRequest.edge ∨
        edge ∈ store.lineage := by
  obtain ⟨forwarded, -⟩ := (lineage_undisturbed inMemory store).forward_eq decides_deliverLineage ()
    (LineagePair.ofModels run.models) report (.refl store) trivial
  rw [items_lineage inMemory] at forwarded
  have reached : (run.lineage.forward Store.sink.deliverLineage report store).2 = _ :=
    congrArg Prod.snd forwarded
  rw [reached, Store.mem_lineage_deliverAll, successes_outcomes]

theorem sameEdges_forward_setup :
    store.SameEdges (run.setup.forward Store.sink.deliverSetup report store).2 := by
  refine (LazySequence.forwarded_ofJobs Store.following_sameEdges Store.sameEdges_deliverSetup
    ?_ _ _ report store).reached
  intro seen entry current
  rw [inMemory, TestSetup.nodeItems_leaves]
  exact Store.following_sameEdges.refl current

theorem sameEdges_forward_cases :
    store.SameEdges (run.cases.cases.forward Store.sink.deliverCase report store).2 := by
  refine (LazySequence.forwarded_ofJobs Store.following_sameEdges Store.sameEdges_deliverCase
    ?_ _ _ report store).reached
  intro _ entry current
  exact congrArg Store.lineage (TestMapping.caseItems_leaves inMemory entry current)

/-- After an execution the catalog has the edges it had and those of the pairs whose tables look-ups
find. -/
theorem mem_lineage_execute
    (edge : LineageEdge) :
    edge ∈ (run.execute Store.sink report store).2.lineage ↔
      edge ∈ ((LineagePair.ofModels run.models).filterMap store.edgeOf).map LineageRequest.edge ∨
        edge ∈ store.lineage := by
  obtain ⟨lineageReport, setupReport, caseReport, final, -, -⟩ :=
    run.execute_stages Store.sink report store
  have afterSetup := sameEdges_forward_setup inMemory setupReport
    (run.lineage.forward Store.sink.deliverLineage lineageReport store).2
  have afterCases := sameEdges_forward_cases inMemory caseReport (run.setup.forward
    Store.sink.deliverSetup setupReport
      (run.lineage.forward Store.sink.deliverLineage lineageReport store).2).2
  have attached := TestMapping.attachResults_follows
    (show run.mapping.context = .inMemory service from inMemory) Store.following_sameEdges
    Store.sameEdges_submit
  rw [final, attached, afterCases, afterSetup, mem_lineage_forward_lineage inMemory]

/-- An execution on a catalog without edges counts as many edges as the catalog has afterwards
exactly if no pair is listed twice whose tables look-ups find. -/
theorem lineageEdges_execute_iff
    (sound : store.Sound)
    (noEdges : store.lineage = []) :
    (run.execute Store.sink report store).1.2.summary.lineageEdges =
        (run.execute Store.sink report store).2.lineage.length ↔
      ((LineagePair.ofModels run.models).filter fun pair => (store.edgeOf pair).isSome).Nodup := by
  obtain ⟨emitted, -, grown⟩ := execute_requestsOn inMemory report store
  have edges := mem_lineage_execute inMemory report store
  simp only [noEdges, List.not_mem_nil, or_false] at edges
  have counted := length_eq_iff_of_mem_iff (grown.sound sound).edgesOnce edges
  rw [List.length_map] at counted
  rw [lineageEdges_execute, emitted, ← sound.nodup_edges_iff, ← counted]
  exact eq_comm

end Run

/-- Data models resolved with the in-memory builder of names, and any catalog to look owners up in.
No model lists a parent twice exactly if the dependencies of each node that is the last one on its
table have tables of their own; and exactly then no pair of tables is listed twice. One pass yields
one item for each pair that is listed, whatever the catalog; and an execution on an in-memory catalog
without edges counts as many edges as the catalog has afterwards exactly if no pair is listed twice
whose tables look-ups find. -/
theorem Run.one_edge_per_pair_iff
    (service : String)
    (client : Client Store)
    (readType : String → DataType)
    (artifacts : MergedArtifacts)
    (owners : List OwnerStrategy)
    (store : Store) :
    let context : Context Store := ⟨service, client, Store.nameBuilder, readType⟩
    let resolved := (ModelResolver.resolveAll ⟨context, artifacts, owners⟩ store).1
    let pairs := LineagePair.ofModels resolved.models
    (ParentsOnce resolved.models ↔
        ∀ entry, artifacts.LastOnTable service entry →
          artifacts.HaveOwnTables service entry.2.dependsOn) ∧
      (pairs.Nodup ↔ ParentsOnce resolved.models) ∧
      (∀ (σ : Type) (asked : Context σ) (state : σ),
        List.Forall₂ (fun pair item => ∃ before, ((pair.request asked).run before).1 = item)
          pairs ((lineageSequence asked resolved.models).pullAll state).1.1) ∧
      ∀ (runResults : Option RunResults) (report : Report) (catalog : Store),
        catalog.Reachable → catalog.lineage = [] →
          let run : Run Store := ⟨.inMemory service, artifacts, resolved, runResults⟩
          let executed := run.execute Store.sink report catalog
          executed.1.2.summary.lineageEdges = executed.2.lineage.length ↔
            (pairs.filter fun pair => (catalog.edgeOf pair).isSome).Nodup := by
  intro context resolved pairs
  have builds : context.BuildsIn service := ⟨rfl, rfl⟩
  refine ⟨?_, ?_, ?_, ?_⟩
  · exact ModelResolver.parentsOnce_iff builds store
  · exact LineagePair.nodup_ofModels_iff resolved.models
  · exact fun _ asked state => LineagePair.forall₂_pass asked resolved.models state
  · intro runResults report catalog reachable noEdges run executed
    exact lineageEdges_execute_iff rfl report catalog reachable.sound noEdges

/-- Orders that depend on two sources of customers, of which the second lies in some schema. -/
def MergedArtifacts.ordersFrom (schema : String) : MergedArtifacts where
  manifest :=
    let customers : ManifestNode := { (default : ManifestNode) with name := "customers" }
    .ofList
      [("model.shop.orders",
          { (default : ManifestNode) with
            name := "orders", resourceType := "model"
            dependsOn := ["source.crm.customers", "source.shop.customers"] }),
        ("source.crm.customers", { customers with schema := some "crm" }),
        ("source.shop.customers", { customers with schema := some schema })]
  catalog := .empty
  failures := []

/-- A catalog with the table of orders and those of customers in two schemas. -/
def Store.withCustomers : Store :=
  (Origin.built [(.table, "svc.default.default.orders"), (.table, "svc.default.crm.customers"),
    (.table, "svc.default.raw.customers")] []).store 0

theorem Store.reachable_withCustomers : withCustomers.Reachable :=
  ⟨.built [(.table, "svc.default.default.orders"), (.table, "svc.default.crm.customers"),
    (.table, "svc.default.raw.customers")] [], 0, [], rfl⟩

/-- Sources in different schemas have an edge each, and both are counted. -/
theorem Run.one_edge_per_pair_iff_on_two_schemas :
    let context : Context Store := ⟨"svc", Store.client, Store.nameBuilder, DataType.read⟩
    let artifacts : MergedArtifacts := .ordersFrom "raw"
    let resolved :=
      (ModelResolver.resolveAll ⟨context, artifacts, OwnerStrategy.standard⟩ (Store.empty 0)).1
    let run : Run Store := ⟨.inMemory "svc", artifacts, resolved, none⟩
    let executed := run.execute Store.sink (Report.new "svc" "") Store.withCustomers
    ParentsOnce resolved.models ∧ Store.withCustomers.Reachable ∧
      Store.withCustomers.lineage = [] ∧
        executed.1.2.summary.lineageEdges = executed.2.lineage.length := by
  obtain ⟨-, listed, -, counted⟩ := one_edge_per_pair_iff "svc" Store.client DataType.read
    (.ordersFrom "raw") OwnerStrategy.standard (Store.empty 0)
  have once := listed.mp (by decide +kernel)
  have noEdges : Store.withCustomers.lineage = [] := by decide +kernel
  have sameCount := (counted none (Report.new "svc" "") Store.withCustomers
    Store.reachable_withCustomers noEdges).mpr (List.Pairwise.filter _ (listed.mpr once))
  exact ⟨once, Store.reachable_withCustomers, noEdges, sameCount⟩

/-- Two sources on one table are listed twice as a parent, and of the two edges that are counted the
catalog has one. -/
theorem Run.shared_parent_counted_twice :
    let artifacts : MergedArtifacts := .ordersFrom "crm"
    let resolved := (ModelResolver.resolveAll ⟨.inMemory "svc", artifacts, OwnerStrategy.standard⟩
      (Store.empty 0)).1
    let run : Run Store := ⟨.inMemory "svc", artifacts, resolved, none⟩
    let executed := run.execute Store.sink (Report.new "svc" "") Store.withCustomers
    ¬ ParentsOnce resolved.models ∧ Store.withCustomers.Reachable ∧
      Store.withCustomers.lineage = [] ∧
        executed.1.2.summary.lineageEdges = 2 ∧ executed.2.lineage.length = 1 := by
  intro artifacts resolved run executed
  refine ⟨fun once => ?_, Store.reachable_withCustomers, ?_⟩
  · have listed : (resolved.models.get? "svc.default.default.orders").map DataModel.parents =
        some ["svc.default.crm.customers", "svc.default.crm.customers"] := by decide +kernel
    obtain ⟨model, found, parents⟩ := Option.map_eq_some_iff.mp listed
    have distinct := once _ model found
    rw [parents] at distinct
    exact absurd distinct (by decide)
  · decide +kernel

end CatalogIngest
