import CatalogIngest.Proofs.Catalog.Sharing
import CatalogIngest.Proofs.Ingest.Submission

/-!
# Delivery of results

A run on the in-memory catalog ends by submitting results. By then all its cases are registered,
under the names under which results look for them, so that every result of an accepted case arrives:
the results of a case are those it had before, then those of the records in their order.
-/

namespace CatalogIngest

namespace Report

theorem summary_testResults_recordAll
    (report : Report)
    (failures : List Failure) :
    (report.recordAll failures).summary.testResults = report.summary.testResults := by
  induction failures generalizing report with
  | nil => rfl
  | cons failure later inductionHypothesis => exact inductionHypothesis (report.record failure)

end Report

namespace Run

/-- An execution forwards lineage, setup requests and cases one after another, and then attaches
results. -/
theorem execute_stages
    {σ : Type}
    (run : Run σ)
    (sink : Sink σ)
    (report : Report)
    (state : σ) :
    ∃ lineageReport setupReport caseReport,
      let lineage := run.lineage.forward sink.deliverLineage lineageReport state
      let setup := run.setup.forward sink.deliverSetup setupReport lineage.2
      let cases := run.cases.cases.forward sink.deliverCase caseReport setup.2
      let attached := run.mapping.attachResults cases.2
      let executed := run.execute sink report state
      executed.2 = attached.2 ∧
        executed.1.1 = ⟨lineage.1.1, SetupRequest.suites setup.1.1,
          SetupRequest.definitions setup.1.1, cases.1.1⟩ ∧
        executed.1.2.summary.testResults = attached.1.submitted := by
  refine ⟨_, _, _, rfl, rfl, ?_⟩
  exact Report.summary_testResults_recordAll _ _

variable {run : Run Store} {service : String}

theorem registers_lineage
    (inMemory : run.context = .inMemory service)
    (report : Report)
    (store : Store) :
    store.Registers (run.lineage.forward Store.sink.deliverLineage report store).2 := by
  refine (LazySequence.forwarded_ofJobs Store.following_registers Store.registers_deliverLineage
    ?_ _ _ report store).reached
  intro _ pair current
  rw [inMemory]
  have same := LineagePair.leaves_request service pair current
  exact same.symm ▸ Store.following_registers.refl current

theorem registers_setup
    (inMemory : run.context = .inMemory service)
    (report : Report)
    (store : Store) :
    store.Registers (run.setup.forward Store.sink.deliverSetup report store).2 := by
  refine (LazySequence.forwarded_ofJobs Store.following_registers Store.registers_deliverSetup
    ?_ _ _ report store).reached
  intro seen entry current
  rw [inMemory, TestSetup.nodeItems_leaves]
  exact Store.following_registers.refl current

/-- An execution on the in-memory catalog first registers lineage, suites and definitions; then it
forwards the cases and attaches results. -/
theorem execute_inMemory
    (inMemory : run.context = .inMemory service)
    (report : Report)
    (store : Store) :
    ∃ caseReport prepared, store.Registers prepared ∧
      let cases := run.cases.cases.forward Store.sink.deliverCase caseReport prepared
      let attached := run.mapping.attachResults cases.2
      let executed := run.execute Store.sink report store
      executed.2 = attached.2 ∧ executed.1.1.cases = cases.1.1 ∧
        executed.1.2.summary.testResults = attached.1.submitted := by
  obtain ⟨lineageReport, setupReport, caseReport, finalState, emitted, counted⟩ :=
    run.execute_stages Store.sink report store
  refine ⟨caseReport, _, ?_, finalState, congrArg EmittedRequests.cases emitted, counted⟩
  exact Store.following_registers.trans (registers_lineage inMemory lineageReport store)
    (registers_setup inMemory setupReport _)

theorem forwarded_cases
    (inMemory : run.context = .inMemory service)
    (report : Report)
    (store : Store) :
    Forwarded Store.Registers Store.sink.deliverCase
      (fun request => ∃ test node, run.mapping.Depends test node ∧
        TestMapping.IsFor request test node service)
      store (run.cases.cases.forward Store.sink.deliverCase report store) := by
  have works : ∀ memory entry current,
      Store.Registers current (run.cases.cases.work memory entry current).2 := by
    intro _ entry current
    have same : (run.mapping.caseItems entry current).2 = current :=
      TestMapping.caseItems_leaves inMemory entry current
    exact same.symm ▸ Store.following_registers.refl current
  obtain ⟨reached, accepted⟩ := LazySequence.forwarded_ofJobs Store.following_registers
    Store.registers_deliverCase works () run.tests.entries report store
  refine ⟨reached, fun request member => ?_⟩
  obtain ⟨⟨entry, entryMember, _, before, made⟩, taken⟩ := accepted request member
  obtain ⟨id, idMember, node, found, wanted⟩ := TestMapping.isFor_of_mem_caseItems inMemory made
  exact ⟨⟨entry.2, node, ⟨entry.1, id, entryMember, idMember, found⟩, wanted⟩, taken⟩

/-- A case that was accepted on the way is in the catalog at the end, under the name that is built
for it. -/
theorem entity_of_taken
    {first last : Store}
    (sound : first.Sound)
    {request : CaseRequest}
    (taken : TakenBetween Store.Registers Store.sink.deliverCase first last request)
    {test node : ManifestNode}
    (wanted : TestMapping.IsFor request test node service) :
    ∃ before entity, first.Registers before ∧ (Store.createCase before request).1 = .ok entity ∧
      last.entity? .testCase (test.caseNameOn node service) = some entity ∧
        entity.fullName = test.caseNameOn node service := by
  obtain ⟨before, reached, accepted, left⟩ := taken
  obtain ⟨entity, created⟩ := Sink.outcome_ok accepted
  obtain ⟨found, named⟩ := Store.fullName_of_createCase_ok (reached.sound sound) wanted.link created
  rw [wanted.name] at found named
  refine ⟨before, entity, reached, created, left.entities _ _ _ ?_, named⟩
  unfold Sink.deliverCase
  rw [Sink.outcome_snd]
  exact found

end Run

/-- An execution on an in-memory catalog without faults, which also answers the questions of the
run. What is owed for each record follows from the record alone. Each accepted case request is that
of a test on a table it depends on, and its case is in the catalog under the name under which
results look for it. Every case keeps its results and gains, in order, those that are owed to it;
where there is no case, a delivery is lost; and the results counted are those that arrived. -/
theorem Run.results_delivered
    {run : Run Store}
    {service : String}
    (inMemory : run.context = .inMemory service)
    {store : Store}
    (reachable : store.Reachable)
    (unfaulted : store.faults = .empty)
    (report : Report) :
    let executed := run.execute Store.sink report store
    let final := executed.2
    ∃ owed : List (List Delivery),
      (∀ each : List (List Delivery),
        List.Forall₂ (run.mapping.Owes service) run.mapping.records each ↔ owed = each) ∧
      let deliveries := owed.flatten
      let arrived := deliveries.filter final.accepts
      (∀ test node : ManifestNode, ∀ current,
        (run.context.names.build
            (node.address.testCaseRequest service test.declaredColumn test.name) current).1 =
          .ok (some (test.caseNameOn node service))) ∧
      (∀ request ∈ executed.1.1.cases,
        (∃ test node, run.mapping.Depends test node ∧
          TestMapping.IsFor request test node service) ∧
        ∀ test node, TestMapping.IsFor request test node service →
          (∃ before entity, store.Registers before ∧
            (Store.createCase before request).1 = .ok entity ∧
            final.entity? .testCase (test.caseNameOn node service) = some entity ∧
            entity.fullName = test.caseNameOn node service) ∧
          final.resultsOf (test.caseNameOn node service) =
            store.resultsOf (test.caseNameOn node service) ++
              Store.resultsFor (test.caseNameOn node service) deliveries) ∧
      (∀ fullName, final.resultsOf fullName =
        store.resultsOf fullName ++ Store.resultsFor fullName arrived) ∧
      executed.1.2.summary.testResults = arrived.length := by
  intro executed final
  refine ⟨_, run.mapping.forall₂_owes_iff service run.mapping.records, ?_⟩
  intro deliveries arrived
  obtain ⟨caseReport, prepared, registered, finalState, emitted, counted⟩ :=
    Run.execute_inMemory inMemory report store
  have forwarded := Run.forwarded_cases inMemory caseReport prepared
  revert finalState emitted counted forwarded
  rcases run.cases.cases.forward Store.sink.deliverCase caseReport prepared with
    ⟨⟨accepted, _⟩, filled⟩
  intro finalState emitted counted forwarded
  have grown := Store.following_registers.trans registered forwarded.reached
  obtain ⟨added, submitted⟩ := TestMapping.attachResults_eq run.mapping inMemory
    (grown.sameFaults.trans unfaulted)
  rw [← run.mapping.flatten_map_entryDeliveries service] at added submitted
  have reached : final = filled.addResults (deliveries.filter filled.accepts) :=
    finalState.trans added
  have sameAccepts : final.accepts = filled.accepts := by
    rw [reached, Store.accepts_addResults]
  have gained : ∀ fullName, final.resultsOf fullName =
      store.resultsOf fullName ++ Store.resultsFor fullName arrived := by
    intro fullName
    rw [show arrived = deliveries.filter filled.accepts from sameAccepts ▸ rfl, reached,
      Store.resultsOf_addResults]
    unfold Store.resultsOf
    rw [grown.sameResults]
  refine ⟨?_, ?_, gained, ?_⟩
  · intro test node current
    rw [inMemory]
    exact congrArg Except.ok (node.address.build_testCaseRequest _ _ _ current)
  · intro request member
    rw [emitted] at member
    obtain ⟨origin, taken⟩ := forwarded.accepted request member
    refine ⟨origin, fun test node wanted => ?_⟩
    obtain ⟨before, entity, reachedBefore, created, found, named⟩ :=
      Run.entity_of_taken (registered.sound reachable.sound) taken wanted
    have present : final.entity? .testCase (test.caseNameOn node service) = some entity := by
      rw [reached, Store.entity?_addResults]
      exact found
    refine ⟨⟨before, entity, Store.following_registers.trans registered reachedBefore, created,
      present, named⟩, ?_⟩
    rw [gained, Store.resultsFor_filter_accepts (Option.isSome_iff_exists.mpr ⟨entity, present⟩)]
  · rw [counted, submitted, show arrived = deliveries.filter filled.accepts from sameAccepts ▸ rfl]

/-- A catalog with one table. -/
def Store.withOrders : Store :=
  (Origin.built [(.table, "shop.default.default.orders")] []).store 0

/-- A run with a test on a column of that table. Of the test there are a success with a time, a
failure without one, a word that means an abortion, and a record without a timestamp; one record is
of no test and one does not decode. -/
def Run.onOrders : Run Store :=
  let table : ManifestNode := { (default : ManifestNode) with name := "orders" }
  let test : ManifestNode :=
    { (default : ManifestNode) with
      name := "unique"
      resourceType := "test"
      dependsOn := ["model.orders"]
      testMetadata := some default
      columnName := some "order.id" }
  let compiled : TimingEntry := ⟨"compile", none, some "2023-01-02T00:00:00Z"⟩
  let completed : TimingEntry := ⟨"execute", none, some "2023-01-01T00:00:00Z"⟩
  let uncompleted : TimingEntry := ⟨"execute", none, none⟩
  let mistimed : TimingEntry := ⟨"execute", none, some "yesterday"⟩
  { context := .inMemory "shop"
    artifacts :=
      ⟨(SortedMap.empty.insert "model.orders" table).insert "test.unique" test, .empty, []⟩
    resolved := ⟨.empty, SortedMap.empty.insert "test.unique" test, []⟩
    runResults := some
      ⟨[RunResult.listed "test.unique" "success" [mistimed, completed, uncompleted, compiled],
        .null, RunResult.listed "test.unique" "failure" [uncompleted],
        RunResult.listed "model.orders" "success" [completed],
        RunResult.listed "test.unique" "success" [completed, mistimed],
        RunResult.listed "test.unique" "skipped" [completed]]⟩ }

/-- Three of the six records arrive. -/
theorem Run.results_delivered_on_orders :
    Run.onOrders.context = .inMemory "shop" ∧ Store.withOrders.Reachable ∧
      Store.withOrders.faults = .empty ∧
      (Run.onOrders.execute Store.sink (Report.new "shop" "") Store.withOrders).2.resultsOf
          "shop.default.default.orders.\"order.id\".unique" =
        [⟨some 1672531200000, .success, [⟨"test.unique", "1"⟩]⟩,
          ⟨none, .failed, [⟨"test.unique", "0"⟩]⟩,
          ⟨some 1672531200000, .aborted, [⟨"test.unique", "-1"⟩]⟩] ∧
      (Run.onOrders.execute Store.sink (Report.new "shop" "")
        Store.withOrders).1.2.summary.testResults = 3 := by
  have reachable : Store.withOrders.Reachable :=
    ⟨.built [(.table, "shop.default.default.orders")] [], 0, [], rfl⟩
  have unfaulted : Store.withOrders.faults = .empty := by decide
  obtain ⟨owed, owes, -, -, gained, counted⟩ :=
    Run.results_delivered (show Run.onOrders.context = .inMemory "shop" from rfl) reachable
      unfaulted (Report.new "shop" "")
  obtain rfl := (owes _).mp
    ((Run.onOrders.mapping.forall₂_owes_iff "shop" Run.onOrders.mapping.records _).mpr rfl)
  refine ⟨rfl, reachable, unfaulted, (gained _).trans ?_, counted.trans ?_⟩
  · decide +kernel
  · decide +kernel

end CatalogIngest
