import CatalogIngest.Ingest.Ingestion
import CatalogIngest.Proofs.Catalog.CaseName
import CatalogIngest.Proofs.Ingest.Forwarding
import CatalogIngest.Proofs.Ingest.SetupTurn

/-!
# Stages of a run on the in-memory catalog

When the in-memory catalog answers all questions of a run, asking changes nothing. Lineage, suites,
definitions and cases are registered without touching results, and the cases that are accepted are
those that tests make for the tables they depend on.
-/

namespace CatalogIngest
namespace Store

/-- A newer catalog has registered more than an older one, with the same results and faults. -/
structure Registers (older newer : Store) : Prop extends Grows older newer where
  sameResults : newer.results = older.results
  sameFaults : newer.faults = older.faults

theorem following_registers : Following Registers where
  refl store := ⟨.refl store, rfl, rfl⟩
  trans early late :=
    ⟨early.toGrows.trans late.toGrows, late.sameResults.trans early.sameResults,
      late.sameFaults.trans early.sameFaults⟩

theorem registers_addEntity
    (store : Store)
    (kind : EntityKind)
    (fullName : String) :
    store.Registers (store.addEntity kind fullName).2 :=
  ⟨store.grows_addEntity kind fullName, store.results_addEntity kind fullName,
    store.faults_addEntity kind fullName⟩

theorem registers_createSuite
    (store : Store)
    (request : SuiteRequest) :
    store.Registers (store.createSuite request).2 := by
  rcases store.createSuite_snd request with same | same <;> rw [same]
  · exact following_registers.refl store
  · exact store.registers_addEntity .testSuite request.name

theorem registers_createDefinition
    (store : Store)
    (request : DefinitionRequest) :
    store.Registers (store.createDefinition request).2 := by
  rcases store.createDefinition_snd request with same | same <;> rw [same]
  · exact following_registers.refl store
  · exact store.registers_addEntity .testDefinition request.name

theorem registers_createCase
    (store : Store)
    (request : CaseRequest) :
    store.Registers (store.createCase request).2 := by
  rcases store.createCase_snd request with same | same <;> rw [same]
  · exact following_registers.refl store
  · exact store.registers_addEntity .testCase (caseName request.link request.name)

theorem registers_addLineage
    (store : Store)
    (request : LineageRequest) :
    store.Registers (store.addLineage request) := by
  refine ⟨store.grows_addLineage request, ?_, ?_⟩ <;> unfold addLineage <;> split <;> rfl

end Store

/-! ## Delivering requests -/

namespace Sink

variable {σ α : Type}

theorem outcome_snd
    (stage : Stage)
    (subject : String)
    (call : CatalogCall σ α)
    (state : σ) :
    (outcome stage subject call state).2 = (call state).2 := by
  unfold outcome
  rcases call state with ⟨_ | _, after⟩ <;> rfl

theorem outcome_ok
    {stage : Stage}
    {subject : String}
    {call : CatalogCall σ α}
    {state : σ}
    (delivered : (outcome stage subject call state).1 = .ok ()) :
    ∃ answer, (call state).1 = .ok answer := by
  unfold outcome at delivered
  revert delivered
  rcases call state with ⟨error | answer, after⟩
  · exact fun delivered => nomatch delivered
  · exact fun _ => ⟨answer, rfl⟩

end Sink

namespace Store

theorem registers_deliverLineage
    (request : LineageRequest)
    (store : Store) :
    store.Registers (sink.deliverLineage request store).2 := by
  unfold Sink.deliverLineage
  rw [Sink.outcome_snd]
  exact store.registers_addLineage request

theorem registers_deliverSetup
    (request : SetupRequest)
    (store : Store) :
    store.Registers (sink.deliverSetup request store).2 := by
  cases request with
  | suite request =>
      rw [Sink.deliverSetup, Sink.outcome_snd]
      exact store.registers_createSuite request
  | definition request =>
      rw [Sink.deliverSetup, Sink.outcome_snd]
      exact store.registers_createDefinition request

theorem registers_deliverCase
    (request : CaseRequest)
    (store : Store) :
    store.Registers (sink.deliverCase request store).2 := by
  unfold Sink.deliverCase
  rw [Sink.outcome_snd]
  exact store.registers_createCase request

end Store

/-! ## Asking -/

namespace Attempt

variable {σ α β : Type}

/-- The computation leaves the state as it is. -/
def Leaves (attempt : Attempt σ α) : Prop :=
  ∀ state, (attempt.run state).2 = state

theorem run_bind
    {ε : Type}
    (attempt : ExceptT ε (StateM σ) α)
    (next : α → ExceptT ε (StateM σ) β)
    (state : σ) :
    (attempt >>= next).run state =
      match attempt.run state with
      | (.error failure, state) => (.error failure, state)
      | (.ok value, state) => (next value).run state := by
  change ExceptT.bindCont next (attempt state).1 (attempt state).2 = _
  unfold ExceptT.run
  rcases attempt state with ⟨_ | _, after⟩ <;> rfl

theorem run_mk
    (compute : StateM σ (Except Failure α))
    (state : σ) :
    ExceptT.run (ExceptT.mk compute) state = compute state := rfl

theorem leaves_bind
    {attempt : Attempt σ α}
    {next : α → Attempt σ β}
    (first : attempt.Leaves)
    (second : ∀ value, (next value).Leaves) :
    (attempt >>= next).Leaves := by
  intro state
  have same := first state
  rw [run_bind]
  revert same
  rcases attempt.run state with ⟨failure | value, after⟩
  · exact fun same => same
  · exact fun same => (second value after).trans same

end Attempt

theorem outcomesOf_leaves
    {σ α : Type}
    {attempts : List (Attempt σ α)}
    (leaves : ∀ attempt ∈ attempts, Attempt.Leaves attempt)
    (state : σ) :
    (outcomesOf attempts state).2 = state := by
  induction attempts generalizing state with
  | nil => rfl
  | cons attempt later inductionHypothesis =>
      have first := leaves attempt List.mem_cons_self state
      have rest := inductionHypothesis
        (fun other member => leaves other (List.mem_cons_of_mem _ member))
      exact (rest _).trans first

/-- Each outcome is that of one of the computations. -/
theorem mem_outcomesOf
    {σ α : Type}
    {attempts : List (Attempt σ α)}
    {state : σ}
    {outcome : Except Failure α}
    (member : outcome ∈ (outcomesOf attempts state).1) :
    ∃ attempt ∈ attempts, ∃ before, (attempt.run before).1 = outcome := by
  induction attempts generalizing state with
  | nil => nomatch member
  | cons attempt later inductionHypothesis =>
      rcases List.mem_cons.mp member with rfl | member
      · exact ⟨attempt, List.mem_cons_self, state, rfl⟩
      · obtain ⟨other, otherMember, before, same⟩ := inductionHypothesis member
        exact ⟨other, List.mem_cons_of_mem _ otherMember, before, same⟩

namespace Context

theorem leaves_requireEntity
    (service : String)
    (kind : EntityKind)
    (name : String)
    (stage : Stage)
    (subject : String) :
    ((inMemory service).requireEntity kind name stage subject).Leaves :=
  fun _ => rfl

theorem service_inMemory (service : String) : (inMemory service).service = service := rfl

theorem submit_inMemory
    (service fullName : String)
    (result : TestResult)
    (store : Store) :
    (inMemory service).client.submit fullName result store = store.submit fullName result := rfl

/-- A context builds names within a service as the in-memory catalog does, whatever its client is. -/
structure BuildsIn (context : Context Store) (service : String) : Prop where
  sameService : context.service = service
  sameBuilder : context.names = Store.nameBuilder

theorem BuildsIn.of_inMemory
    {context : Context Store}
    {service : String}
    (inMemory : context = .inMemory service) :
    context.BuildsIn service := by
  rw [inMemory]
  exact ⟨rfl, rfl⟩

/-- The name of a table is built from its address, and the catalog stays as it is. -/
theorem BuildsIn.run_requireName_table
    {context : Context Store}
    {service : String}
    (builds : context.BuildsIn service)
    (address : TableAddress)
    (stage : Stage)
    (subject : String)
    (store : Store) :
    (context.requireName (address.tableRequest context.service) stage subject).run store =
      (.ok (address.fullName service), store) := by
  unfold requireName
  rw [builds.sameService, builds.sameBuilder]
  rfl

theorem run_requireName_testCase
    (service : String)
    (address : TableAddress)
    (column : Option String)
    (testCase : String)
    (stage : Stage)
    (subject : String)
    (store : Store) :
    ((inMemory service).requireName (address.testCaseRequest service column testCase) stage
        subject).run store =
      (.ok (address.caseName service column testCase), store) := rfl

end Context

theorem LineagePair.leaves_request
    (service : String)
    (pair : LineagePair) :
    Attempt.Leaves (pair.request (Context.inMemory service)) :=
  Attempt.leaves_bind (Context.leaves_requireEntity _ _ _ _ _) fun _ =>
    Attempt.leaves_bind (Context.leaves_requireEntity _ _ _ _ _) fun _ _ => rfl

namespace TestSetup

theorem turnItems_leaves
    (service : String)
    (kind : SetupKind)
    (entry : String × ManifestNode)
    (seen : List String)
    (store : Store) :
    (turnItems (Context.inMemory service) kind entry seen store).2 = store := by
  unfold turnItems
  dsimp only [Context.inMemory, Store.client]
  by_cases known : kind.nameFor entry.2 ∈ seen
  · rw [if_pos known]
  · rw [if_neg known]
    rcases store.lookup kind.entity (kind.nameFor entry.2) with error | (_ | entity)
    · rfl
    · cases kind.requestFor entry <;> rfl
    · rfl

theorem nodeItems_leaves
    (service : String)
    (seen : SeenNames)
    (entry : String × ManifestNode)
    (store : Store) :
    (nodeItems (Context.inMemory service) seen entry store).2 = store := by
  rw [nodeItems_eq_turns]
  exact (turnItems_leaves service .definition entry seen.definitions _).trans
    (turnItems_leaves service .suite entry seen.suites store)

end TestSetup

/-! ## Cases -/

/-- A dependency is found exactly if the manifest has it. -/
theorem MergedArtifacts.dependency_cases
    (artifacts : MergedArtifacts)
    (id : String)
    (stage : Stage)
    (subject : String) :
    (∃ node, artifacts.manifest.get? id = some node ∧
        artifacts.dependency id stage subject = .ok node) ∨
      (artifacts.manifest.get? id = none ∧
        ∃ failure, artifacts.dependency id stage subject = .error failure) := by
  unfold dependency
  cases artifacts.manifest.get? id with
  | some node => exact .inl ⟨node, rfl, rfl⟩
  | none => exact .inr ⟨rfl, _, rfl⟩

namespace ManifestNode

/-- The name of the case of a test on the table that a node builds, in a service. -/
def caseNameOn (test node : ManifestNode) (service : String) : String :=
  node.address.caseName service test.declaredColumn test.name

end ManifestNode

namespace TestMapping

/-- A test node is among those mapped, and it depends on a node of the manifest. -/
def Depends (mapping : TestMapping Store) (test node : ManifestNode) : Prop :=
  ∃ key id, (key, test) ∈ mapping.tests.entries ∧ id ∈ test.dependsOn ∧
    mapping.artifacts.manifest.get? id = some node

/-- A request is for the case of a test on the table that a node builds, in a service. -/
structure IsFor (request : CaseRequest) (test node : ManifestNode) (service : String) : Prop where
  name : request.name = test.name
  link : request.link = linkTo test (node.address.fullName service)

theorem caseParts_leaves
    {mapping : TestMapping Store}
    {service : String}
    (inMemory : mapping.context = .inMemory service)
    (key : String)
    (test : ManifestNode) :
    Attempt.Leaves (mapping.caseParts key test) := by
  unfold caseParts
  rw [inMemory]
  exact Attempt.leaves_bind (fun _ => rfl) fun _ =>
    Attempt.leaves_bind (Context.leaves_requireEntity _ _ _ _ _) fun _ =>
      Attempt.leaves_bind (Context.leaves_requireEntity _ _ _ _ _) fun _ _ => rfl

/-- What comes of the request for a case, with the in-memory builder of names. -/
theorem run_caseOn
    {mapping : TestMapping Store}
    {service : String}
    (builds : mapping.context.BuildsIn service)
    (key : String)
    (test : ManifestNode)
    (parts : CaseParts)
    (id : String)
    (store : Store) :
    (mapping.caseOn key test parts id).run store =
      (match mapping.artifacts.dependency id .testCase key with
        | .error failure => .error failure
        | .ok node => .ok
            { name := test.name
              description := test.description.getD ""
              definition := parts.definition
              link := linkTo test (node.address.fullName service)
              suite := parts.suite
              parameters := parts.parameters },
        store) := by
  unfold caseOn
  rw [Attempt.run_bind, Attempt.run_mk]
  rcases mapping.artifacts.dependency id .testCase key with failure | node
  · rfl
  · dsimp only
    rw [Attempt.run_bind, builds.run_requireName_table]
    rfl

theorem caseItems_leaves
    {mapping : TestMapping Store}
    {service : String}
    (inMemory : mapping.context = .inMemory service)
    (entry : String × ManifestNode)
    (store : Store) :
    (mapping.caseItems entry store).2 = store := by
  have same := caseParts_leaves inMemory entry.1 entry.2 store
  unfold caseItems
  revert same
  rcases (mapping.caseParts entry.1 entry.2).run store with ⟨failure | parts, after⟩
  · exact fun same => same
  · intro same
    refine (outcomesOf_leaves ?_ after).trans same
    intro attempt member state
    obtain ⟨id, -, rfl⟩ := List.mem_map.mp member
    rw [run_caseOn (.of_inMemory inMemory)]

/-- Each request that a test makes is for its case on a table that it depends on. -/
theorem isFor_of_mem_caseItems
    {mapping : TestMapping Store}
    {service : String}
    (inMemory : mapping.context = .inMemory service)
    {entry : String × ManifestNode}
    {store : Store}
    {request : CaseRequest}
    (member : .ok request ∈ (mapping.caseItems entry store).1) :
    ∃ id ∈ entry.2.dependsOn, ∃ node, mapping.artifacts.manifest.get? id = some node ∧
      IsFor request entry.2 node service := by
  unfold caseItems at member
  revert member
  rcases (mapping.caseParts entry.1 entry.2).run store with ⟨failure | parts, after⟩
  · exact fun member => nomatch List.mem_singleton.mp member
  · intro member
    obtain ⟨attempt, attempted, before, outcome⟩ := mem_outcomesOf member
    obtain ⟨id, idMember, rfl⟩ := List.mem_map.mp attempted
    rw [run_caseOn (.of_inMemory inMemory)] at outcome
    obtain ⟨node, found, known⟩ | ⟨-, failure, missed⟩ :=
      mapping.artifacts.dependency_cases id .testCase entry.1
    · rw [known] at outcome
      cases outcome
      exact ⟨id, idMember, node, found, rfl, rfl⟩
    · rw [missed] at outcome
      nomatch outcome

end TestMapping
end CatalogIngest
