import CatalogIngest.Proofs.Ingest.Accounting
import CatalogIngest.Proofs.Ingest.Correspondence

/-!
# An error for one name stays with that name

When the catalog answers look-ups for one name with an error, a run loses the requests that need to
look that name up, and no others: the edges of the table of that name, the suite and the definition
of that name, and the cases that bear it or belong to the suite of that name.
-/

namespace CatalogIngest

/-! ## Look-ups beside a fault -/

namespace Store

variable (store : Store) (name : String) (error : CatalogError)

@[simp] theorem contains_addFault :
    (store.addFault name error).contains = store.contains := rfl

theorem fault_addFault_same :
    (store.addFault name error).faults.get? name = some error :=
  SortedMap.get?_insert_same store.faults name error

theorem fault_addFault_other
    {other : String}
    (different : other ≠ name) :
    (store.addFault name error).faults.get? other = store.faults.get? other :=
  SortedMap.get?_insert_other store.faults different error

end Store

/-! ## Setup beside a fault -/

/-- What a pass has seen, without one name. -/
def SeenNames.without (seen : SeenNames) (name : String) : SeenNames :=
  ⟨seen.suites.filter (· ≠ name), seen.definitions.filter (· ≠ name)⟩

namespace TestSetup

namespace TurnIn

variable
  {store : Store}
  {kind : SetupKind}
  {entry : String × ManifestNode}
  {seen seenAfter : List String}
  {items : Batch}
  (turn : TurnIn store kind entry seen items seenAfter)

include turn

/-- A turn requests and sees nothing but the name that the node asks for. -/
theorem filter_nameFor :
    (successes items).filter (·.name ≠ kind.nameFor entry.2) = [] ∧
      seenAfter.filter (· ≠ kind.nameFor entry.2) = seen.filter (· ≠ kind.nameFor entry.2) := by
  cases turn with
  | requested fresh unfaulted absent made =>
      have named := (SetupKind.requestFor_ok made).2
      simp [successes, named]
  | _ => simp [successes]

/-- A turn for a name other than that of a fault happens beside the fault as without it. -/
theorem addFault_other
    {name : String}
    (different : kind.nameFor entry.2 ≠ name)
    (error : CatalogError) :
    TurnIn (store.addFault name error) kind entry (seen.filter (· ≠ name)) items
        (seenAfter.filter (· ≠ name)) ∧
      (successes items).filter (·.name ≠ name) = successes items := by
  have faults := store.fault_addFault_other name error different
  have remembered : kind.nameFor entry.2 ∈ seen.filter (· ≠ name) ↔
      kind.nameFor entry.2 ∈ seen := by
    simp [different]
  have keptName : (kind.nameFor entry.2 :: seen).filter (· ≠ name) =
      kind.nameFor entry.2 :: seen.filter (· ≠ name) := by
    simp [different]
  cases turn with
  | settled known => exact ⟨.settled (remembered.mpr known), rfl⟩
  | faulted fresh fault => exact ⟨.faulted (mt remembered.mp fresh) (faults.trans fault), rfl⟩
  | existing fresh unfaulted present =>
      rw [keptName]
      exact ⟨.existing (mt remembered.mp fresh) (faults.trans unfaulted) present, rfl⟩
  | requested fresh unfaulted absent made =>
      have named := (SetupKind.requestFor_ok made).2
      rw [keptName]
      refine ⟨.requested (mt remembered.mp fresh) (faults.trans unfaulted) absent made, ?_⟩
      simp [successes, named, different]
  | malformed fresh unfaulted absent unmade =>
      exact ⟨.malformed (mt remembered.mp fresh) (faults.trans unfaulted) absent unmade, rfl⟩

end TurnIn

variable (store : Store) (name : String) (error : CatalogError)

/-- A turn beside a fault makes the same requests and sees the same names, but for the name of the
fault. -/
theorem turnItems_addFault
    (service : String)
    (kind : SetupKind)
    (entry : String × ManifestNode)
    (seen : List String) :
    let plain := turnItems (Context.inMemory service) kind entry seen store
    let spoiled := turnItems (Context.inMemory service) kind entry (seen.filter (· ≠ name))
      (store.addFault name error)
    successes spoiled.1.1 = (successes plain.1.1).filter (·.name ≠ name) ∧
      spoiled.1.2 = plain.1.2.filter (· ≠ name) := by
  intro plain spoiled
  have turn : TurnIn store kind entry seen plain.1.1 plain.1.2 :=
    turnIn_turnItems service kind entry seen store
  by_cases same : kind.nameFor entry.2 = name
  · have forgotten : kind.nameFor entry.2 ∉ seen.filter (· ≠ name) := by
      simp [same]
    have fault : (store.addFault name error).faults.get? (kind.nameFor entry.2) = some error := by
      rw [same]
      exact store.fault_addFault_same name error
    have lost : spoiled = _ := (TurnIn.faulted forgotten fault).turnItems_eq service
    obtain ⟨nothing, sameSeen⟩ := turn.filter_nameFor
    rw [same] at nothing sameSeen
    rw [lost, nothing, sameSeen]
    exact ⟨rfl, rfl⟩
  · obtain ⟨beside, sameRequests⟩ := turn.addFault_other same error
    have kept : spoiled = _ := beside.turnItems_eq service
    rw [kept, sameRequests]
    exact ⟨rfl, rfl⟩

theorem nodeItems_addFault
    (service : String)
    (seen : SeenNames)
    (entry : String × ManifestNode) :
    let plain := nodeItems (Context.inMemory service) seen entry store
    let spoiled := nodeItems (Context.inMemory service) (seen.without name) entry
      (store.addFault name error)
    successes spoiled.1.1 = (successes plain.1.1).filter (·.name ≠ name) ∧
      spoiled.1.2 = plain.1.2.without name := by
  intro plain spoiled
  obtain ⟨suites, seenSuites⟩ :=
    turnItems_addFault store name error service .suite entry seen.suites
  obtain ⟨definitions, seenDefinitions⟩ :=
    turnItems_addFault store name error service .definition entry seen.definitions
  have plainTurns : plain = _ := nodeItems_eq_turns (Context.inMemory service) seen entry store
  have spoiledTurns : spoiled = _ := nodeItems_eq_turns (Context.inMemory service)
    (seen.without name) entry (store.addFault name error)
  rw [turnItems_leaves] at plainTurns spoiledTurns
  rw [plainTurns, spoiledTurns]
  refine ⟨?_, ?_⟩
  · rw [successes_append, successes_append, List.filter_append, ← suites, ← definitions]
    rfl
  · unfold SeenNames.without
    rw [← seenSuites, ← seenDefinitions]

/-- A pass beside a fault makes the same requests, but for the name of the fault. -/
theorem itemsFrom_addFault
    (service : String)
    (seen : SeenNames)
    (entries : List (String × ManifestNode)) :
    successes (itemsFrom service (seen.without name) entries (store.addFault name error)) =
      (successes (itemsFrom service seen entries store)).filter (·.name ≠ name) := by
  induction entries generalizing seen with
  | nil => rfl
  | cons entry later inductionHypothesis =>
      obtain ⟨sameItems, sameSeen⟩ := nodeItems_addFault store name error service seen entry
      rw [itemsFrom_cons, itemsFrom_cons, successes_append, successes_append, List.filter_append,
        sameItems, sameSeen, inductionHypothesis]

end TestSetup

namespace SetupRequest

theorem suites_filter_name
    (name : String)
    (requests : List SetupRequest) :
    suites (requests.filter (·.name ≠ name)) = (suites requests).filter (·.name ≠ name) := by
  unfold suites
  rw [List.filterMap_filter, List.filter_filterMap]
  apply List.filterMap_congr
  intro request _
  cases request with
  | suite request =>
      by_cases same : request.name = name <;> simp [SetupRequest.name, Option.filter, same]
  | definition request => simp

theorem definitions_filter_name
    (name : String)
    (requests : List SetupRequest) :
    definitions (requests.filter (·.name ≠ name)) =
      (definitions requests).filter (·.name ≠ name) := by
  unfold definitions
  rw [List.filterMap_filter, List.filter_filterMap]
  apply List.filterMap_congr
  intro request _
  cases request with
  | suite request => simp
  | definition request =>
      by_cases same : request.name = name <;> simp [SetupRequest.name, Option.filter, same]

end SetupRequest

/-! ## Requests that concern a name -/

namespace Store

/-- An edge starts or ends at the table of a name. -/
def EdgeTouches (store : Store) (name : String) (request : LineageRequest) : Prop :=
  store.referenceTo? .table name = some request.edge.source ∨
    store.referenceTo? .table name = some request.edge.target

instance (store : Store) (name : String) (request : LineageRequest) :
    Decidable (store.EdgeTouches name request) :=
  inferInstanceAs (Decidable (_ ∨ _))

/-- A case bears a name, or belongs to the suite of that name. -/
def CaseTouches (store : Store) (name : String) (request : CaseRequest) : Prop :=
  request.name = name ∨ store.referenceTo? .testSuite name = some request.suite

instance (store : Store) (name : String) (request : CaseRequest) :
    Decidable (store.CaseTouches name request) :=
  inferInstanceAs (Decidable (_ ∨ _))

section Lookups

variable {store : Store} (name : String) (error : CatalogError)

theorem found?_addFault_same
    (kind : EntityKind) :
    (store.addFault name error).found? kind name = none :=
  found?_of_fault (store.fault_addFault_same name error) kind

theorem found?_addFault_other
    (noFaults : store.faults = .empty)
    (kind : EntityKind)
    {other : String}
    (different : other ≠ name) :
    (store.addFault name error).found? kind other = store.found? kind other := by
  have beside : (store.addFault name error).faults.get? other = none := by
    rw [store.fault_addFault_other name error different]
    exact unfaulted noFaults other
  rw [found?_of_unfaulted beside, found?_of_unfaulted (unfaulted noFaults other)]
  rfl

theorem edgeOf_addFault_touched
    {pair : LineagePair}
    (touched : pair.parent = name ∨ pair.model = name) :
    (store.addFault name error).edgeOf pair = none := by
  unfold edgeOf
  rcases touched with same | same
  · rw [same, found?_addFault_same name error]
    rfl
  · rw [same, found?_addFault_same name error]
    cases (store.addFault name error).found? .table pair.parent <;> rfl

theorem edgeOf_addFault_apart
    (noFaults : store.faults = .empty)
    {pair : LineagePair}
    (parent : pair.parent ≠ name)
    (model : pair.model ≠ name) :
    (store.addFault name error).edgeOf pair = store.edgeOf pair := by
  unfold edgeOf
  rw [found?_addFault_other name error noFaults .table parent,
    found?_addFault_other name error noFaults .table model]

/-- The edge of a pair touches exactly the names of the pair. -/
theorem Sound.edgeTouches_iff
    (sound : store.Sound)
    {pair : LineagePair}
    {request : LineageRequest}
    (made : store.edgeOf pair = some request) :
    store.EdgeTouches name request ↔ pair.parent = name ∨ pair.model = name := by
  obtain ⟨source, sourceFound, made⟩ := Option.bind_eq_some_iff.mp made
  obtain ⟨target, targetFound, rfl⟩ := Option.map_eq_some_iff.mp made
  unfold EdgeTouches
  dsimp only
  rw [← sound.reference_of_found? sourceFound, ← sound.reference_of_found? targetFound]
  exact or_congr (sound.referenceTo?_eq_iff sourceFound name)
    (sound.referenceTo?_eq_iff targetFound name)

/-- Beside a fault the edge of a pair is lost exactly if it touches the name. -/
theorem edgeOf_addFault
    (sound : store.Sound)
    (noFaults : store.faults = .empty)
    (pair : LineagePair) :
    (store.addFault name error).edgeOf pair =
      (store.edgeOf pair).filter fun request => ¬ store.EdgeTouches name request := by
  by_cases touched : pair.parent = name ∨ pair.model = name
  · rw [edgeOf_addFault_touched name error touched]
    cases made : store.edgeOf pair with
    | none => rfl
    | some request =>
        have touches := (sound.edgeTouches_iff name made).mpr touched
        simp [Option.filter, touches]
  · obtain ⟨parent, model⟩ := not_or.mp touched
    rw [edgeOf_addFault_apart name error noFaults parent model]
    cases made : store.edgeOf pair with
    | none => rfl
    | some request =>
        have apart := mt (sound.edgeTouches_iff name made).mp touched
        simp [Option.filter, apart]

end Lookups

end Store

namespace TestMapping

variable
  {mapping : TestMapping Store}
  {service : String}
  {store : Store}
  {test : ManifestNode}

/-- Each case of a test bears its name and belongs to the suite that was looked up. -/
theorem of_mem_casesOf
    {request : CaseRequest}
    (member : request ∈ mapping.casesOf service store test) :
    request.name = test.name ∧
      ∃ suite, store.found? .testSuite test.suiteName = some suite ∧
        request.suite = suite.reference := by
  unfold casesOf at member
  cases made : partsIn store test with
  | none =>
      rw [made] at member
      nomatch member
  | some parts =>
      rw [made] at member
      obtain ⟨node, -, rfl⟩ := List.mem_map.mp member
      refine ⟨rfl, ?_⟩
      unfold partsIn at made
      obtain ⟨metadata, -, made⟩ := Option.bind_eq_some_iff.mp made
      obtain ⟨definition, -, made⟩ := Option.bind_eq_some_iff.mp made
      obtain ⟨suite, found, rfl⟩ := Option.map_eq_some_iff.mp made
      exact ⟨suite, found, rfl⟩

/-- A case of a test touches exactly the name of the test and that of its suite. -/
theorem caseTouches_iff
    (sound : store.Sound)
    (name : String)
    {request : CaseRequest}
    (member : request ∈ mapping.casesOf service store test) :
    store.CaseTouches name request ↔ test.name = name ∨ test.suiteName = name := by
  obtain ⟨named, suite, found, belongs⟩ := of_mem_casesOf member
  unfold Store.CaseTouches
  rw [named, belongs]
  exact or_congr_right (sound.referenceTo?_eq_iff found name)

/-- A test has no cases when look-ups of its definition or of its suite fail. -/
theorem casesOf_of_fault
    {name : String}
    {error : CatalogError}
    (fault : store.faults.get? name = some error)
    (touched : test.name = name ∨ test.suiteName = name) :
    mapping.casesOf service store test = [] := by
  have unmade : partsIn store test = none := by
    unfold partsIn
    cases test.testMetadata with
    | none => rfl
    | some metadata =>
        rcases touched with same | same
        · rw [same, Store.found?_of_fault fault]
          rfl
        · rw [same, Store.found?_of_fault fault]
          cases store.found? .testDefinition test.name <;> rfl
  unfold casesOf
  rw [unmade]

end TestMapping

/-! ## Whole runs -/

namespace Run

variable {store : Store} (run : Run Store) (service name : String) (error : CatalogError)

/-- Beside a fault a run sets up the same suites and definitions, but for the name of the fault. -/
theorem setupRequests_addFault :
    run.setupRequests service (store.addFault name error) =
      (run.setupRequests service store).filter (·.name ≠ name) := by
  have requested := TestSetup.itemsFrom_addFault store name error service ⟨[], []⟩ run.tests.entries
  unfold setupRequests acceptedAmong
  rw [List.filter_comm, ← requested]
  rfl

/-- Once suites and definitions are set up, look-ups beside a fault find the same as without it. -/
theorem isSome_found?_preparedStore_addFault
    (noFaults : store.faults = .empty)
    (kind : EntityKind)
    {other : String}
    (different : other ≠ name) :
    ((run.preparedStore service store).found? kind other).isSome =
      ((run.preparedStore service (store.addFault name error)).found? kind other).isSome := by
  have plain : (run.preparedStore service store).faults.get? other = none := by
    rw [faults_preparedStore]
    exact Store.unfaulted noFaults other
  have spoiled :
      (run.preparedStore service (store.addFault name error)).faults.get? other = none := by
    rw [faults_preparedStore, store.fault_addFault_other name error different]
    exact Store.unfaulted noFaults other
  rw [Store.found?_of_unfaulted plain, Store.found?_of_unfaulted spoiled]
  change Store.contains _ _ _ = Store.contains _ _ _
  rw [Bool.eq_iff_iff]
  unfold preparedStore
  rw [Store.contains_addEach, Store.contains_addEach,
    setupRequests_addFault run service name error, Store.contains_addFault]
  apply or_congr_left
  simp only [List.mem_map, List.mem_filter]
  constructor
  · rintro ⟨request, member, same⟩
    have sameName : request.name = other := congrArg Prod.snd same
    exact ⟨request, ⟨member, by simpa [sameName] using different⟩, same⟩
  · rintro ⟨request, ⟨member, -⟩, same⟩
    exact ⟨request, member, same⟩

/-- Beside a fault the cases of a test are lost exactly if they touch the name. -/
theorem forall₂_casesOf_addFault
    (sound : store.Sound)
    (noFaults : store.faults = .empty)
    (test : ManifestNode) :
    let plain := run.preparedStore service store
    let spoiled := run.preparedStore service (store.addFault name error)
    List.Forall₂ (plain.SameCase spoiled)
      ((run.mapping.casesOf service plain test).filter fun request =>
        ¬ plain.CaseTouches name request)
      (run.mapping.casesOf service spoiled test) := by
  intro plain spoiled
  have plainSound : plain.Sound := (store.grows_addEach _).sound sound
  by_cases touched : test.name = name ∨ test.suiteName = name
  · have fault : spoiled.faults.get? name = some error := by
      rw [run.faults_preparedStore]
      exact store.fault_addFault_same name error
    have lost : run.mapping.casesOf service spoiled test = [] :=
      TestMapping.casesOf_of_fault fault touched
    rw [lost, List.forall₂_nil_right_iff, List.filter_eq_nil_iff]
    intro request member
    rw [decide_eq_true_iff, not_not]
    exact (TestMapping.caseTouches_iff plainSound name member).mpr touched
  · have kept : ((run.mapping.casesOf service plain test).filter fun request =>
        ¬ plain.CaseTouches name request) = run.mapping.casesOf service plain test := by
      apply List.filter_eq_self.mpr
      intro request member
      rw [decide_eq_true_iff]
      exact mt (TestMapping.caseTouches_iff plainSound name member).mp touched
    obtain ⟨otherName, otherSuite⟩ := not_or.mp touched
    rw [kept]
    apply TestMapping.forall₂_casesOf
    apply TestMapping.rel_partsIn
    · exact run.isSome_found?_preparedStore_addFault service name error noFaults _ otherName
    · exact run.isSome_found?_preparedStore_addFault service name error noFaults _ otherSuite

/-- Beside a fault a run requests the same cases, but for those that touch the name. -/
theorem forall₂_caseRequests_addFault
    (sound : store.Sound)
    (noFaults : store.faults = .empty) :
    let plain := run.preparedStore service store
    let spoiled := run.preparedStore service (store.addFault name error)
    List.Forall₂ (plain.SameCase spoiled)
      ((run.caseRequests service plain).filter fun request => ¬ plain.CaseTouches name request)
      (run.caseRequests service spoiled) := by
  intro plain spoiled
  unfold caseRequests
  rw [List.filter_comm, List.filter_flatMap]
  have sameTables : ∀ fullName,
      plain.contains .table fullName = spoiled.contains .table fullName := by
    intro fullName
    unfold Store.contains
    rw [run.entity?_table_preparedStore, run.entity?_table_preparedStore]
    rfl
  refine List.rel_filter ?_ (Store.forall₂_flatMap _ fun entry _ =>
    run.forall₂_casesOf_addFault service name error sound noFaults entry.2)
  intro first second same
  dsimp only
  rw [same.link, sameTables]

end Run

/-- An error set for one name of an in-memory catalog without errors, which is the only collaborator
of a run. With it an execution requests what it requests without it, in the same order and up to the
identities of new entities, except the edges from and to the table of that name, the suite and the
definition of that name, and the cases of that name or of the suite of that name. In both executions
what the catalog held before keeps its identity. -/
theorem Run.fault_isolated
    {run : Run Store}
    {service : String}
    (inMemory : run.context = .inMemory service)
    {store : Store}
    (reachable : store.Reachable)
    (noFaults : store.faults = .empty)
    (name : String)
    (error : CatalogError)
    (report : Report) :
    let plain := run.execute Store.sink report store
    let spoiled := run.execute Store.sink report (store.addFault name error)
    store.Extends plain.2 ∧
      store.Extends spoiled.2 ∧
      spoiled.1.1.lineage =
        (plain.1.1.lineage.filter fun request => ¬ plain.2.EdgeTouches name request) ∧
      spoiled.1.1.suites = (plain.1.1.suites.filter fun request => request.name ≠ name) ∧
      spoiled.1.1.definitions =
        (plain.1.1.definitions.filter fun request => request.name ≠ name) ∧
      List.Forall₂ (plain.2.SameCase spoiled.2)
        (plain.1.1.cases.filter fun request => ¬ plain.2.CaseTouches name request)
        spoiled.1.1.cases := by
  intro plain spoiled
  obtain ⟨plainRequests, plainAlike, plainGrows⟩ :=
    Run.execute_requestsOn inMemory report store
  obtain ⟨spoiledRequests, spoiledAlike, spoiledGrows⟩ :=
    Run.execute_requestsOn inMemory report (store.addFault name error)
  change plain.1.1 = _ at plainRequests
  change spoiled.1.1 = _ at spoiledRequests
  change plain.2.AnswersLike _ at plainAlike
  change spoiled.2.AnswersLike _ at spoiledAlike
  have plainKept : (run.preparedStore service store).KeepsReferences plain.2 :=
    (Store.grows_addEach _ _).keepsReferences.trans_answersLike plainAlike
  have spoiledKept :
      (run.preparedStore service (store.addFault name error)).KeepsReferences spoiled.2 :=
    (Store.grows_addEach _ _).keepsReferences.trans_answersLike spoiledAlike
  have sameEdges : ∀ request, plain.2.EdgeTouches name request ↔
      store.EdgeTouches name request := by
    intro request
    unfold Store.EdgeTouches
    rw [plainAlike.referenceTo?, run.referenceTo?_table_filledStore]
  have sameCases : ∀ request, plain.2.CaseTouches name request ↔
      (run.preparedStore service store).CaseTouches name request := by
    intro request
    unfold Store.CaseTouches
    rw [plainAlike.referenceTo?, run.referenceTo?_filledStore service store (by decide)]
  have setup : run.setupRequests service (store.addFault name error) = _ :=
    run.setupRequests_addFault service name error
  rw [plainRequests, spoiledRequests]
  refine ⟨plainGrows.toExtends, (store.grows_addFault name error).toExtends.trans
    spoiledGrows.toExtends, ?_, ?_, ?_, ?_⟩
  · simp only [sameEdges]
    unfold Run.requestsOn
    rw [List.filter_filterMap]
    apply List.filterMap_congr
    intro pair _
    exact Store.edgeOf_addFault name error reachable.sound noFaults pair
  · unfold Run.requestsOn
    rw [setup]
    exact SetupRequest.suites_filter_name name _
  · unfold Run.requestsOn
    rw [setup]
    exact SetupRequest.definitions_filter_name name _
  · have same := run.forall₂_caseRequests_addFault service name error reachable.sound noFaults
    simp only [sameCases]
    exact same.imp fun first second related => related.later plainKept spoiledKept

/-- A catalog with the tables of a source and of a model. -/
def Store.withSales : Store :=
  (Origin.built [(.table, "svc.db.sales.raw"), (.table, "svc.db.sales.orders")] []).store 0

/-- A run with an edge between these tables and a test of the model. -/
def Run.onSales : Run Store :=
  (Run.ofArtifacts (.inMemory "svc") Manifest.ordersWithTest ⟨.empty, .empty⟩ none
    Store.withSales).1

/-- An error for the name of the test loses its definition and its case, but neither the edge nor the
suite. -/
theorem Run.fault_isolated_on_sales :
    let report := Report.new "svc" ""
    let error : CatalogError := ⟨.network, "down"⟩
    let plain := Run.onSales.execute Store.sink report Store.withSales
    let spoiled := Run.onSales.execute Store.sink report (Store.withSales.addFault "unique" error)
    Run.onSales.context = .inMemory "svc" ∧ Store.withSales.Reachable ∧
      Store.withSales.faults = .empty ∧
      plain.1.1.lineage.length = 1 ∧ plain.1.1.suites.length = 1 ∧
      plain.1.1.definitions.length = 1 ∧ plain.1.1.cases.length = 1 ∧
      spoiled.1.1.lineage.length = 1 ∧ spoiled.1.1.suites.length = 1 ∧
      spoiled.1.1.definitions.length = 0 ∧ spoiled.1.1.cases.length = 0 := by
  have reachable : Store.withSales.Reachable :=
    ⟨.built [(.table, "svc.db.sales.raw"), (.table, "svc.db.sales.orders")] [], 0, [], rfl⟩
  have noFaults : Store.withSales.faults = .empty := by decide
  obtain ⟨-, -, lineage, suites, definitions, cases⟩ :=
    Run.fault_isolated (show Run.onSales.context = .inMemory "svc" from rfl) reachable noFaults
      "unique" ⟨.network, "down"⟩ (Report.new "svc" "")
  have requested :
      let plain := (Run.onSales.execute Store.sink (Report.new "svc" "") Store.withSales).1.1
      plain.lineage.length = 1 ∧ plain.suites.length = 1 ∧ plain.definitions.length = 1 ∧
        plain.cases.length = 1 := by
    decide +kernel
  obtain ⟨oneEdge, oneSuite, oneDefinition, oneCase⟩ := requested
  refine ⟨rfl, reachable, noFaults, oneEdge, oneSuite, oneDefinition, oneCase, ?_, ?_, ?_, ?_⟩
  · rw [lineage]
    decide +kernel
  · rw [suites]
    decide +kernel
  · rw [definitions]
    decide +kernel
  · rw [← cases.length_eq]
    decide +kernel

end CatalogIngest
