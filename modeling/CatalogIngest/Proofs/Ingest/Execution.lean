import CatalogIngest.Proofs.Ingest.CaseRequests
import CatalogIngest.Proofs.Ingest.Delivery
import CatalogIngest.Proofs.Ingest.SetupNames

/-!
# Executing a run on the in-memory catalog

All requests of an execution on the in-memory catalog can be told from the catalog at its start:
edges between tables that look-ups find, suites and definitions that are missing, and cases of tests
for which there is everything once the suites and definitions are there. The catalog at the end
answers as if these had been registered one after another.
-/

namespace CatalogIngest

/-! ## Submitting results -/

namespace Store

/-- A newer catalog differs from an older one in results only, and may have more of them. -/
structure OnlyGainsResults (older newer : Store) : Prop extends Grows older newer where
  alike : newer.AnswersLike older

theorem following_onlyGainsResults : Following OnlyGainsResults where
  refl store := ⟨.refl store, .refl store⟩
  trans early late := ⟨early.toGrows.trans late.toGrows, late.alike.trans early.alike⟩

theorem onlyGainsResults_submit
    (store : Store)
    (fullName : String)
    (result : TestResult) :
    store.OnlyGainsResults (store.submit fullName result).2 := by
  refine ⟨store.grows_submit fullName result, ?_⟩
  obtain ⟨error, refused⟩ | ⟨-, added⟩ := store.submit_cases fullName result
  · rw [refused]
    exact .refl store
  · rw [added]
    exact ⟨rfl, rfl, rfl⟩

end Store

theorem outcomesOf_follows
    {σ α : Type}
    {follows : σ → σ → Prop}
    (following : Following follows)
    {attempts : List (Attempt σ α)}
    (steps : ∀ attempt ∈ attempts, ∀ state, follows state (attempt.run state).2)
    (state : σ) :
    follows state (outcomesOf attempts state).2 := by
  induction attempts generalizing state with
  | nil => exact following.refl state
  | cons attempt later inductionHypothesis =>
      have first := steps attempt List.mem_cons_self state
      have rest := inductionHypothesis
        (fun other member => steps other (List.mem_cons_of_mem _ member)) (attempt.run state).2
      exact following.trans first rest

namespace TestMapping

variable
  {mapping : TestMapping Store}
  {service : String}
  (inMemory : mapping.context = .inMemory service)
  {follows : Store → Store → Prop}
  (following : Following follows)
  (submits : ∀ (store : Store) fullName result,
    follows store (Store.submit store fullName result).2)

include inMemory following submits

theorem submitTo_follows
    (subject : String)
    (test : ManifestNode)
    (result : TestResult)
    (id : String)
    (store : Store) :
    follows store ((mapping.submitTo subject test result id).run store).2 := by
  rw [run_submitTo mapping inMemory]
  cases mapping.artifacts.dependency id .testResult subject with
  | error failure => exact following.refl store
  | ok node =>
      have submitted := submits store (test.caseNameOn node service) result
      revert submitted
      dsimp only
      rcases store.submit (test.caseNameOn node service) result with ⟨error | _, after⟩
      · exact fun submitted => submitted
      · exact fun submitted => submitted

theorem entryOutcomes_follows
    (position : Nat)
    (value : Json.Value)
    (store : Store) :
    follows store (mapping.entryOutcomes position value store).2 := by
  unfold entryOutcomes recordOutcomes
  cases RunResult.decode .direct value with
  | error error => exact following.refl store
  | ok record =>
      dsimp only
      cases mapping.tests.get? record.uniqueId with
      | none =>
          cases mapping.isForeign record.uniqueId <;> exact following.refl store
      | some test =>
          cases record.completedMillis with
          | error text => exact following.refl store
          | ok timestamp =>
              apply outcomesOf_follows following
              intro attempt attempted current
              obtain ⟨id, -, rfl⟩ := List.mem_map.mp attempted
              exact submitTo_follows inMemory following submits _ _ _ _ current

theorem outcomesFrom_follows
    (position : Nat)
    (records : List Json.Value)
    (store : Store) :
    follows store (mapping.outcomesFrom position records store).2 := by
  induction records generalizing position store with
  | nil => exact following.refl store
  | cons value values inductionHypothesis =>
      have first := entryOutcomes_follows inMemory following submits position value store
      exact following.trans first (inductionHypothesis (position + 1) _)

/-- Attaching results does to the catalog what submissions do, one after another. -/
theorem attachResults_follows
    (store : Store) :
    follows store (mapping.attachResults store).2 := by
  unfold attachResults
  cases mapping.runResults with
  | none => exact following.refl store
  | some runResults =>
      exact outcomesFrom_follows inMemory following submits 0 runResults.results store

end TestMapping

/-- Attaching results changes nothing but results, whatever faults there are. -/
theorem TestMapping.onlyGainsResults_attachResults
    {mapping : TestMapping Store}
    {service : String}
    (inMemory : mapping.context = .inMemory service)
    (store : Store) :
    store.OnlyGainsResults (mapping.attachResults store).2 :=
  attachResults_follows inMemory Store.following_onlyGainsResults Store.onlyGainsResults_submit store

/-! ## The whole execution -/

namespace Store.AnswersLike

theorem found?
    {store model : Store}
    (alike : store.AnswersLike model) :
    store.found? = model.found? := by
  funext kind fullName
  unfold Store.found?
  rw [alike.lookup]

end Store.AnswersLike

namespace Run

variable {run : Run Store} {service : String}

theorem caseRequests_of_answersLike
    (run : Run Store)
    (service : String)
    {store model : Store}
    (alike : store.AnswersLike model) :
    run.caseRequests service store = run.caseRequests service model := by
  unfold caseRequests TestMapping.casesOf TestMapping.partsIn
  rw [alike.found?, alike.contains]

/-- The catalog of a run with the suites and definitions that are set up. -/
def preparedStore (run : Run Store) (service : String) (store : Store) : Store :=
  store.addEach ((run.setupRequests service store).map SetupRequest.entry)

/-- The requests of an execution, told from the catalog at its start. -/
def requestsOn (run : Run Store) (service : String) (store : Store) : EmittedRequests where
  lineage := (LineagePair.ofModels run.models).filterMap store.edgeOf
  suites := SetupRequest.suites (run.setupRequests service store)
  definitions := SetupRequest.definitions (run.setupRequests service store)
  cases := run.caseRequests service (run.preparedStore service store)

/-- The catalog of a run with everything that is registered. -/
def filledStore (run : Run Store) (service : String) (store : Store) : Store :=
  let prepared := run.preparedStore service store
  prepared.addEach ((run.caseRequests service prepared).map Store.caseEntry)

theorem faults_preparedStore
    (store : Store) :
    (run.preparedStore service store).faults = store.faults :=
  store.faults_addEach _

/-- Setting up suites and definitions leaves tables alone. -/
theorem entity?_table_preparedStore
    (run : Run Store)
    (service : String)
    (store : Store)
    (fullName : String) :
    (run.preparedStore service store).entity? .table fullName = store.entity? .table fullName := by
  apply Store.entity?_addEach_of_not_mem
  intro member
  obtain ⟨request, -, same⟩ := List.mem_map.mp member
  have sameKind : request.kind.entity = .table := congrArg Prod.fst same
  cases kind : request.kind with
  | suite =>
      rw [kind] at sameKind
      nomatch sameKind
  | definition =>
      rw [kind] at sameKind
      nomatch sameKind

/-- Registering cases leaves everything else alone. -/
theorem entity?_filledStore
    (run : Run Store)
    (service : String)
    (store : Store)
    {kind : EntityKind}
    (other : kind ≠ .testCase)
    (fullName : String) :
    (run.filledStore service store).entity? kind fullName =
      (run.preparedStore service store).entity? kind fullName := by
  apply Store.entity?_addEach_of_not_mem
  intro member
  obtain ⟨request, -, same⟩ := List.mem_map.mp member
  exact other (congrArg Prod.fst same).symm

theorem referenceTo?_filledStore
    (run : Run Store)
    (service : String)
    (store : Store)
    {kind : EntityKind}
    (other : kind ≠ .testCase)
    (fullName : String) :
    (run.filledStore service store).referenceTo? kind fullName =
      (run.preparedStore service store).referenceTo? kind fullName := by
  unfold Store.referenceTo?
  rw [entity?_filledStore run service store other]

/-- An execution registers no tables. -/
theorem referenceTo?_table_filledStore
    (run : Run Store)
    (service : String)
    (store : Store)
    (fullName : String) :
    (run.filledStore service store).referenceTo? .table fullName =
      store.referenceTo? .table fullName := by
  rw [referenceTo?_filledStore run service store (by decide)]
  unfold Store.referenceTo?
  rw [entity?_table_preparedStore]

/-- What an execution requests, and how the catalog answers afterwards. -/
theorem execute_requestsOn
    (inMemory : run.context = .inMemory service)
    (report : Report)
    (store : Store) :
    let executed := run.execute Store.sink report store
    executed.1.1 = run.requestsOn service store ∧
      executed.2.AnswersLike (run.filledStore service store) ∧ store.Grows executed.2 := by
  intro executed
  obtain ⟨lineageReport, setupReport, caseReport, finalState, emitted, -⟩ :=
    run.execute_stages Store.sink report store
  obtain ⟨edges, -, linked⟩ := forward_lineage inMemory lineageReport store
  have linkedGrows := registers_lineage inMemory lineageReport store
  revert finalState emitted edges linked linkedGrows
  rcases run.lineage.forward Store.sink.deliverLineage lineageReport store with
    ⟨⟨lineage, _⟩, afterLineage⟩
  intro finalState emitted edges linked linkedGrows
  obtain ⟨requested, settled⟩ := forward_setup inMemory setupReport linked
  have setupGrows := registers_setup inMemory setupReport afterLineage
  revert finalState emitted requested settled setupGrows
  rcases run.setup.forward Store.sink.deliverSetup setupReport afterLineage with
    ⟨⟨setup, _⟩, afterSetup⟩
  intro finalState emitted requested settled setupGrows
  obtain ⟨wanted, filled⟩ := forward_cases inMemory caseReport afterSetup
  have casesGrow := (forwarded_cases inMemory caseReport afterSetup).reached
  revert finalState emitted wanted filled casesGrow
  rcases run.cases.cases.forward Store.sink.deliverCase caseReport afterSetup with
    ⟨⟨cases, _⟩, afterCases⟩
  intro finalState emitted wanted filled casesGrow
  dsimp only at finalState emitted edges linked requested settled wanted filled
  have attached := TestMapping.onlyGainsResults_attachResults
    (show run.mapping.context = .inMemory service from inMemory) afterCases
  have prepared : afterSetup.AnswersLike (run.preparedStore service store) := by
    rw [settled]
    exact linked.addEach _
  have sameCases := run.caseRequests_of_answersLike service prepared
  refine ⟨?_, ?_, ?_⟩
  · have same : executed.1.1 = _ := emitted
    rw [same, edges, requested, wanted, sameCases]
    rfl
  · have reached : executed.2 = _ := finalState
    rw [reached]
    refine attached.alike.trans ?_
    rw [filled, sameCases]
    exact prepared.addEach _
  · have reached : executed.2 = _ := finalState
    rw [reached]
    exact ((linkedGrows.toGrows.trans setupGrows.toGrows).trans casesGrow.toGrows).trans
      attached.toGrows

end Run
end CatalogIngest
