import CatalogIngest.Proofs.Ingest.LineageEdges

/-!
# Cases on the in-memory catalog

The cases of a test are requested when it has metadata and look-ups find its definition and its
suite: one for each dependency in the manifest. The in-memory catalog takes those on tables that it
holds. New cases change neither, so the cases of a run are those of the catalog after setup.
-/

namespace CatalogIngest
namespace TestMapping

/-- What the cases of a test share, if the test has metadata and look-ups find the rest. -/
def partsIn (store : Store) (test : ManifestNode) : Option CaseParts :=
  test.testMetadata.bind fun metadata =>
    (store.found? .testDefinition test.name).bind fun definition =>
      (store.found? .testSuite test.suiteName).map fun suite =>
        ⟨definition.reference, suite.reference, [⟨metadata.name, metadata.parameterText⟩]⟩

/-- The request for the case of a test on the table that a node builds, in a service. -/
def caseOf (service : String) (test : ManifestNode) (parts : CaseParts) (node : ManifestNode) :
    CaseRequest where
  name := test.name
  description := test.description.getD ""
  definition := parts.definition
  link := linkTo test (node.address.fullName service)
  suite := parts.suite
  parameters := parts.parameters

/-- The nodes of the manifest that a test depends on, in the order of its dependencies. -/
def dependenciesOf (mapping : TestMapping Store) (test : ManifestNode) : List ManifestNode :=
  test.dependsOn.filterMap mapping.artifacts.manifest.get?

/-- The requests for the cases of a test. -/
def casesOf (mapping : TestMapping Store) (service : String) (store : Store)
    (test : ManifestNode) : List CaseRequest :=
  match partsIn store test with
  | none => []
  | some parts => (mapping.dependenciesOf test).map (caseOf service test parts)

section InMemory

variable {mapping : TestMapping Store} {service : String}

theorem caseParts_cases
    (inMemory : mapping.context = .inMemory service)
    (key : String)
    (test : ManifestNode)
    (store : Store) :
    (∃ parts, partsIn store test = some parts ∧
        (mapping.caseParts key test).run store = (.ok parts, store)) ∨
      (partsIn store test = none ∧
        ∃ failure, (mapping.caseParts key test).run store = (.error failure, store)) := by
  unfold partsIn caseParts ManifestNode.requireMetadata
  rw [inMemory, Attempt.run_bind, Attempt.run_mk]
  cases test.testMetadata with
  | none => exact .inr ⟨rfl, _, rfl⟩
  | some metadata =>
      dsimp only
      rw [Attempt.run_bind, Context.run_requireEntity]
      obtain ⟨definition, found, known⟩ | ⟨missing, failure, failed, -⟩ :=
        Context.orFail_lookup_cases store .testDefinition test.name .testCase key
          (EntityKind.testDefinition.name ++ " '" ++ test.name ++ "' not found")
      · rw [found, known]
        dsimp only
        rw [Attempt.run_bind, Context.run_requireEntity]
        obtain ⟨suite, found, known⟩ | ⟨missing, failure, failed, -⟩ :=
          Context.orFail_lookup_cases store .testSuite test.suiteName .testCase key
            (EntityKind.testSuite.name ++ " '" ++ test.suiteName ++ "' not found")
        · rw [found, known]
          exact .inl ⟨_, rfl, rfl⟩
        · rw [missing, failed]
          exact .inr ⟨rfl, failure, rfl⟩
      · rw [missing, failed]
        exact .inr ⟨rfl, failure, rfl⟩

/-- What comes of the requests for the cases of a test, dependency by dependency, with the in-memory
builder of names. -/
theorem outcomesOf_caseOn
    (builds : mapping.context.BuildsIn service)
    (key : String)
    (test : ManifestNode)
    (parts : CaseParts)
    (ids : List String)
    (store : Store) :
    outcomesOf (ids.map (mapping.caseOn key test parts)) store =
      (ids.map fun id =>
        (mapping.artifacts.dependency id .testCase key).map (caseOf service test parts), store) := by
  induction ids with
  | nil => rfl
  | cons id later inductionHypothesis =>
      rw [List.map_cons, outcomesOf]
      dsimp only
      rw [run_caseOn builds]
      dsimp only
      rw [inductionHypothesis, List.map_cons]
      cases mapping.artifacts.dependency id .testCase key <;> rfl

theorem successes_caseOn
    (builds : mapping.context.BuildsIn service)
    (key : String)
    (test : ManifestNode)
    (parts : CaseParts)
    (ids : List String)
    (store : Store) :
    successes (outcomesOf (ids.map (mapping.caseOn key test parts)) store).1 =
      (ids.filterMap mapping.artifacts.manifest.get?).map (caseOf service test parts) := by
  rw [outcomesOf_caseOn builds, successes_map, List.map_filterMap]
  refine List.filterMap_congr fun id _ => ?_
  obtain ⟨node, found, known⟩ | ⟨absent, failure, missed⟩ :=
    mapping.artifacts.dependency_cases id .testCase key
  · rw [known, found]
    rfl
  · rw [missed, absent]
    rfl

/-- The requests among the items of a test. -/
theorem successes_caseItems
    (inMemory : mapping.context = .inMemory service)
    (entry : String × ManifestNode)
    (store : Store) :
    successes (mapping.caseItems entry store).1 = mapping.casesOf service store entry.2 := by
  unfold caseItems casesOf
  obtain ⟨parts, made, known⟩ | ⟨unmade, failure, failed⟩ :=
    caseParts_cases inMemory entry.1 entry.2 store
  · rw [made, known]
    exact successes_caseOn (.of_inMemory inMemory) entry.1 entry.2 parts entry.2.dependsOn store
  · rw [unmade, failed]
    rfl

end InMemory
end TestMapping

/-! ## New cases do not disturb requests -/

namespace Store

/-- A catalog differs from another one in its cases only, as far as entities and faults go. -/
structure SameButCases (store base : Store) : Prop where
  faults : store.faults = base.faults
  entities : ∀ kind, kind ≠ .testCase → ∀ fullName,
    store.entity? kind fullName = base.entity? kind fullName

namespace SameButCases

variable {store base : Store} (same : store.SameButCases base)

include same

theorem lookup
    {kind : EntityKind}
    (other : kind ≠ .testCase)
    (fullName : String) :
    store.lookup kind fullName = base.lookup kind fullName := by
  unfold Store.lookup
  rw [same.faults, same.entities kind other]

theorem contains
    {kind : EntityKind}
    (other : kind ≠ .testCase)
    (fullName : String) :
    store.contains kind fullName = base.contains kind fullName := by
  unfold Store.contains
  rw [same.entities kind other]

theorem addEntity
    (fullName : String) :
    (store.addEntity .testCase fullName).2.SameButCases base where
  faults := (store.faults_addEntity .testCase fullName).trans same.faults
  entities kind other name := by
    rw [entity?_addEntity, if_neg fun both => other both.1]
    exact same.entities kind other name

end SameButCases

/-- The failure with which a catalog refuses a case, if it does: it does not hold the table. -/
def refusalOfCase (store : Store) (request : CaseRequest) : Option Failure :=
  if store.contains .table request.link.table then none
  else
    some (.external .testCase request.link.display
      (CatalogError.message ⟨.notFound, request.link.table⟩))

theorem isNone_refusalOfCase
    (store : Store)
    (request : CaseRequest) :
    (store.refusalOfCase request).isNone = store.contains .table request.link.table := by
  unfold refusalOfCase
  cases store.contains .table request.link.table <;> rfl

/-- The kind and full name of the entity that a request asks for. -/
def caseEntry (request : CaseRequest) : EntityKind × String :=
  (.testCase, caseName request.link request.name)

theorem deliverCase_eq
    (request : CaseRequest)
    (store : Store) :
    sink.deliverCase request store =
      match store.refusalOfCase request with
      | some failure => (.error failure, store)
      | none => (.ok (), (store.addEntity .testCase (caseName request.link request.name)).2) := by
  change Sink.outcome .testCase request.link.display
    (fun current => Store.createCase current request) store = _
  unfold Sink.outcome Store.createCase refusalOfCase
  dsimp only
  cases store.contains .table request.link.table <;> rfl

theorem refusalOfCase_eq
    {store base : Store}
    (same : store.SameButCases base) :
    store.refusalOfCase = base.refusalOfCase := by
  funext request
  unfold refusalOfCase
  rw [same.contains (by decide)]

theorem sameButCases_deliverCase
    {store base : Store}
    (same : store.SameButCases base)
    (request : CaseRequest) :
    (sink.deliverCase request store).2.SameButCases base := by
  rw [deliverCase_eq]
  cases store.refusalOfCase request with
  | some failure => exact same
  | none => exact same.addEntity _

theorem decides_deliverCase
    (base : Store) :
    Decides sink.deliverCase (·.SameButCases base) base.refusalOfCase where
  kept request _ same := sameButCases_deliverCase same request
  decided request store same := by
    rw [deliverCase_eq, refusalOfCase_eq same]
    cases base.refusalOfCase request <;> rfl

/-- Handing case items over registers the names of the cases that are accepted. -/
theorem deliverAll_deliverCase
    (items : List (Except Failure CaseRequest))
    {store base : Store}
    (same : store.SameButCases base) :
    deliverAll sink.deliverCase items store =
      store.addEach ((acceptedAmong base.refusalOfCase items).map caseEntry) := by
  induction items generalizing store with
  | nil => rfl
  | cons item later inductionHypothesis =>
      cases item with
      | error failure => exact inductionHypothesis same
      | ok request =>
          refine (inductionHypothesis (sameButCases_deliverCase same request)).trans ?_
          rw [deliverCase_eq, refusalOfCase_eq same]
          cases refused : base.refusalOfCase request with
          | none => simp [acceptedAmong, successes, refused, caseEntry]
          | some failure => simp [acceptedAmong, successes, refused]

end Store

namespace TestMapping

variable {mapping : TestMapping Store} {service : String}

theorem caseParts_alike
    (inMemory : mapping.context = .inMemory service)
    (key : String)
    (test : ManifestNode)
    {store base : Store}
    (same : store.SameButCases base) :
    ((mapping.caseParts key test).run store).1 = ((mapping.caseParts key test).run base).1 := by
  unfold caseParts
  rw [inMemory, Attempt.run_bind, Attempt.run_bind, Attempt.run_mk, Attempt.run_mk]
  cases test.requireMetadata key .testCase with
  | error failure => rfl
  | ok metadata =>
      dsimp only
      rw [Attempt.run_bind, Attempt.run_bind, Context.run_requireEntity,
        Context.run_requireEntity, same.lookup (by decide)]
      cases Context.orFail .testCase key
          (EntityKind.testDefinition.name ++ " '" ++ test.name ++ "' not found")
          (base.lookup .testDefinition test.name) with
      | error failure => rfl
      | ok definition =>
          dsimp only
          rw [Attempt.run_bind, Attempt.run_bind, Context.run_requireEntity,
            Context.run_requireEntity, same.lookup (by decide)]
          cases Context.orFail .testCase key
              (EntityKind.testSuite.name ++ " '" ++ test.suiteName ++ "' not found")
              (base.lookup .testSuite test.suiteName) <;> rfl

theorem caseItems_alike
    (inMemory : mapping.context = .inMemory service)
    (entry : String × ManifestNode)
    {store base : Store}
    (same : store.SameButCases base) :
    (mapping.caseItems entry store).1 = (mapping.caseItems entry base).1 := by
  have parts := caseParts_alike inMemory entry.1 entry.2 same
  have storeLeft := caseParts_leaves inMemory entry.1 entry.2 store
  have baseLeft := caseParts_leaves inMemory entry.1 entry.2 base
  unfold caseItems
  revert parts storeLeft baseLeft
  rcases (mapping.caseParts entry.1 entry.2).run store with ⟨outcome, after⟩
  rcases (mapping.caseParts entry.1 entry.2).run base with ⟨other, afterBase⟩
  intro parts storeLeft baseLeft
  dsimp only at parts
  subst parts
  cases outcome with
  | error failure => rfl
  | ok parts =>
      dsimp only
      rw [outcomesOf_caseOn (.of_inMemory inMemory), outcomesOf_caseOn (.of_inMemory inMemory)]

theorem cases_undisturbed
    (inMemory : mapping.context = .inMemory service)
    (base : Store) :
    LazySequence.Undisturbed (fun store _ _ _ => store.SameButCases base) base
      (CaseSequence.ofMapping mapping).cases.work Store.sink.deliverCase where
  asks _ entry store := caseItems_leaves inMemory entry store
  alike store _ entry _ same :=
    congrArg (fun items => (items, ())) (caseItems_alike inMemory entry same)
  jobsKeep store _ entry _ same := by
    change (mapping.caseItems entry store).2.SameButCases base
    rw [caseItems_leaves inMemory]
    exact same
  consumerKeeps store _ item _ _ same := by
    cases item with
    | error failure => exact same
    | ok request => exact Store.sameButCases_deliverCase same request

end TestMapping

/-! ## The case stage -/

namespace Run

variable {run : Run Store} {service : String}

/-- The case requests of a run that a catalog accepts. -/
def caseRequests (run : Run Store) (service : String) (store : Store) : List CaseRequest :=
  (run.tests.entries.flatMap fun entry => run.mapping.casesOf service store entry.2).filter
    fun request => store.contains .table request.link.table

theorem successes_flatMap
    {ι α : Type}
    (make : ι → List (Except Failure α))
    (jobs : List ι) :
    successes (jobs.flatMap make) = jobs.flatMap fun job => successes (make job) := by
  unfold successes
  rw [List.filterMap_flatMap]

/-- What comes of forwarding case requests. -/
theorem forward_cases
    (inMemory : run.context = .inMemory service)
    (report : Report)
    (store : Store) :
    let forwarded := run.cases.cases.forward Store.sink.deliverCase report store
    forwarded.1.1 = run.caseRequests service store ∧
      forwarded.2 = store.addEach ((run.caseRequests service store).map Store.caseEntry) := by
  intro forwarded
  have same : run.mapping.context = .inMemory service := inMemory
  have undisturbed := TestMapping.cases_undisturbed same store
  have start : store.SameButCases store := ⟨rfl, fun _ _ _ => rfl⟩
  have accepted : acceptedAmong store.refusalOfCase
      (LazySequence.runJobs (CaseSequence.ofMapping run.mapping).cases.work ()
        run.tests.entries store).1.1 = run.caseRequests service store := by
    unfold acceptedAmong caseRequests
    rw [LazySequence.items_runJobs_of_forgetful _ undisturbed.asks, successes_flatMap]
    congr 1
    · funext request
      exact store.isNone_refusalOfCase request
    · congr 1
      funext entry
      exact TestMapping.successes_caseItems same entry store
  obtain ⟨whole, -⟩ := undisturbed.forward_eq (Store.decides_deliverCase store) ()
    run.tests.entries report start start
  rw [accepted, Store.deliverAll_deliverCase _ start, accepted] at whole
  have reached : forwarded = _ := whole
  rw [reached]
  exact ⟨rfl, rfl⟩

end Run
end CatalogIngest
