import CatalogIngest.Proofs.Ingest.FailureStage

/-!
# Accounting for a run

Whatever the collaborators of a run answer, every item of every stage is accounted for once: the
catalog accepted it, and it is returned and counted, or it is recorded as a failure of its stage.
The failures of a run stand in its report in the order of the stages, behind those that stood there
before.
-/

namespace CatalogIngest

/-! ## Receiving requests -/

namespace Sink

variable {σ : Type}

/-- How lineage requests are received. -/
def lineageReceiver (sink : Sink σ) : Receiver σ LineageRequest Unit where
  stage := .lineage
  subject request := request.edge.source.id.text ++ " -> " ++ request.edge.target.id.text
  call := sink.addLineage

/-- How setup requests are received. -/
def setupReceiver (sink : Sink σ) : Receiver σ SetupRequest Entity where
  stage := .testSetup
  subject := SetupRequest.name
  call request :=
    match request with
    | .suite wanted => sink.createSuite wanted
    | .definition wanted => sink.createDefinition wanted

/-- How case requests are received. -/
def caseReceiver (sink : Sink σ) : Receiver σ CaseRequest Entity where
  stage := .testCase
  subject request := request.link.display
  call := sink.createCase

theorem deliver_lineageReceiver (sink : Sink σ) :
    sink.lineageReceiver.deliver = sink.deliverLineage := rfl

theorem deliver_setupReceiver (sink : Sink σ) :
    sink.setupReceiver.deliver = sink.deliverSetup := by
  funext request
  cases request <;> rfl

theorem deliver_caseReceiver (sink : Sink σ) :
    sink.caseReceiver.deliver = sink.deliverCase := rfl

end Sink

/-! ## Counting -/

namespace Report

variable (report : Report)

/-- Recording failures changes no other count. -/
@[simp] theorem summary_recordAll
    (failures : List Failure) :
    (report.recordAll failures).summary =
      { report.summary with failures := report.summary.failures + failures.length } := by
  rw [recordAll_eq]

@[simp] theorem failures_countModels (count : Nat) :
    (report.countModels count).failures = report.failures := rfl

@[simp] theorem failures_countLineage (count : Nat) :
    (report.countLineage count).failures = report.failures := rfl

@[simp] theorem failures_countSetup (suites definitions : Nat) :
    (report.countSetup suites definitions).failures = report.failures := rfl

@[simp] theorem failures_countCases (count : Nat) :
    (report.countCases count).failures = report.failures := rfl

@[simp] theorem failures_addAttachment (attachment : AttachSummary) :
    (report.addAttachment attachment).failures = report.failures ++ attachment.failures :=
  failures_recordAll _ _

end Report

theorem SetupRequest.length_suites_add_length_definitions
    (requests : List SetupRequest) :
    (suites requests).length + (definitions requests).length = requests.length := by
  induction requests with
  | nil => rfl
  | cons request later inductionHypothesis =>
      have rest := inductionHypothesis
      unfold suites definitions at rest ⊢
      cases request <;> simp only [List.filterMap_cons, List.length_cons] <;> omega

/-! ## The stages of a run -/

/-- What became of the items of each stage of a run, and what came of attaching results. -/
structure Ledger where
  lineage : List (Settlement LineageRequest)
  setup : List (Settlement SetupRequest)
  cases : List (Settlement CaseRequest)
  attachment : AttachSummary

/-- The stages in the order in which a run goes through them. -/
def Stage.inOrder : List Stage :=
  [.merge, .dataModel, .lineage, .testSetup, .testCase, .testResult]

namespace Run

variable {σ : Type}

/-- From one state to another, the stages of a run are worked through one after another, with what
became of their items written down. -/
def SettledAs (run : Run σ) (sink : Sink σ) (state : σ) (ledger : Ledger) (final : σ) : Prop :=
  ∃ linked arranged filled,
    Settles sink.lineageReceiver run.lineage state ledger.lineage linked ∧
      Settles sink.setupReceiver run.setup linked ledger.setup arranged ∧
      Settles sink.caseReceiver run.cases.cases arranged ledger.cases filled ∧
      run.mapping.attachResults filled = (ledger.attachment, final)

/-- The failures of each stage of a run. -/
def failuresAt (run : Run σ) (sink : Sink σ) (ledger : Ledger) : Stage → List Failure
  | .merge => run.artifacts.failures
  | .dataModel => run.resolved.failures
  | .lineage => Settlement.failures sink.lineageReceiver ledger.lineage
  | .testSetup => Settlement.failures sink.setupReceiver ledger.setup
  | .testCase => Settlement.failures sink.caseReceiver ledger.cases
  | .testResult => ledger.attachment.failures

/-- The requests that the catalog accepted. -/
def acceptedIn (ledger : Ledger) : EmittedRequests where
  lineage := Settlement.taken ledger.lineage
  suites := SetupRequest.suites (Settlement.taken ledger.setup)
  definitions := SetupRequest.definitions (Settlement.taken ledger.setup)
  cases := Settlement.taken ledger.cases

/-- The report of a run, read off what became of its items. -/
def reportOn (run : Run σ) (sink : Sink σ) (ledger : Ledger) (report : Report) : Report :=
  let emitted := acceptedIn ledger
  let prepared := (report.countModels run.models.size).recordAll run.preparationFailures
  let linked := (prepared.recordAll (run.failuresAt sink ledger .lineage)).countLineage
    emitted.lineage.length
  let arranged := (linked.recordAll (run.failuresAt sink ledger .testSetup)).countSetup
    emitted.suites.length emitted.definitions.length
  let filled := (arranged.recordAll (run.failuresAt sink ledger .testCase)).countCases
    emitted.cases.length
  filled.addAttachment ledger.attachment

/-- Every execution works through the stages, and what it returns is read off what became of their
items. -/
theorem execute_settled
    (run : Run σ)
    (sink : Sink σ)
    (report : Report)
    (state : σ) :
    ∃ ledger final, run.SettledAs sink state ledger final ∧
      run.execute sink report state =
        ((acceptedIn ledger, run.reportOn sink ledger report), final) := by
  obtain ⟨lineage, linked, lineageSettles, lineageForwarded⟩ :=
    exists_forwardSettles sink.lineageReceiver run.lineage state
  obtain ⟨setup, arranged, setupSettles, setupForwarded⟩ :=
    exists_forwardSettles sink.setupReceiver run.setup linked
  obtain ⟨cases, filled, casesSettle, casesForwarded⟩ :=
    exists_forwardSettles sink.caseReceiver run.cases.cases arranged
  rw [Sink.deliver_lineageReceiver] at lineageForwarded
  rw [Sink.deliver_setupReceiver] at setupForwarded
  rw [Sink.deliver_caseReceiver] at casesForwarded
  refine ⟨⟨lineage, setup, cases, (run.mapping.attachResults filled).1⟩, _,
    ⟨linked, arranged, filled, lineageSettles, setupSettles, casesSettle, rfl⟩, ?_⟩
  unfold execute CaseSequence.forward
  dsimp only
  rw [lineageForwarded]
  dsimp only
  rw [setupForwarded]
  dsimp only
  rw [casesForwarded]
  rfl

/-- The failures of a run stand behind those that were in the report, stage after stage. -/
theorem failures_reportOn
    (run : Run σ)
    (sink : Sink σ)
    (ledger : Ledger)
    (report : Report) :
    (run.reportOn sink ledger report).failures =
      report.failures ++ Stage.inOrder.flatMap (run.failuresAt sink ledger) := by
  unfold reportOn preparationFailures
  simp [Stage.inOrder, failuresAt, List.append_assoc]

/-- What the report of a run counts. -/
theorem summary_reportOn
    (run : Run σ)
    (sink : Sink σ)
    (ledger : Ledger)
    (report : Report) :
    (run.reportOn sink ledger report).summary =
      { dataModels := run.models.size
        lineageEdges := (acceptedIn ledger).lineage.length
        testSuites := (acceptedIn ledger).suites.length
        testDefinitions := (acceptedIn ledger).definitions.length
        testCases := (acceptedIn ledger).cases.length
        testResults := ledger.attachment.submitted
        failures := report.summary.failures +
          (Stage.inOrder.flatMap (run.failuresAt sink ledger)).length } := by
  unfold reportOn preparationFailures
  simp [Report.addAttachment, Report.countModels, Report.countLineage, Report.countSetup,
    Report.countCases, Stage.inOrder, failuresAt]
  omega

/-! ## Failures bear their stage -/

/-- The failures of preparing a run are those of merging and resolving. -/
theorem stage_of_prepare
    {context : Context σ}
    {wanted : Bool}
    {loaded : LoadedArtifacts}
    {before : σ}
    {run : Run σ}
    (prepared : (prepare context wanted loaded before).1 = some run) :
    (∀ failure ∈ run.artifacts.failures, failure.stage = .merge) ∧
      ∀ failure ∈ run.resolved.failures, failure.stage = .dataModel := by
  obtain ⟨manifest, catalog, runResults⟩ := loaded
  cases wanted with
  | false => nomatch prepared
  | true =>
      cases manifest with
      | none => nomatch prepared
      | some manifest =>
          cases catalog with
          | none => nomatch prepared
          | some catalog =>
              cases prepared
              refine ⟨MergedArtifacts.stage_of_mem_failures manifest catalog, ?_⟩
              exact ModelResolver.stage_of_mem_resolveNodes _ _ _ (List.forall_mem_nil _) before

/-- The failures of every stage bear it. -/
theorem stage_of_mem_failuresAt
    {run : Run σ}
    {sink : Sink σ}
    {state final : σ}
    {ledger : Ledger}
    (merging : ∀ failure ∈ run.artifacts.failures, failure.stage = .merge)
    (resolving : ∀ failure ∈ run.resolved.failures, failure.stage = .dataModel)
    (settled : run.SettledAs sink state ledger final)
    (stage : Stage) :
    ∀ failure ∈ run.failuresAt sink ledger stage, failure.stage = stage := by
  obtain ⟨linked, arranged, filled, lineage, setup, cases, attached⟩ := settled
  cases stage with
  | merge => exact merging
  | dataModel => exact resolving
  | lineage => exact lineage.stage_of_mem_failures (lineage_yields run.context run.models)
  | testSetup => exact setup.stage_of_mem_failures (setup_yields run.context run.tests)
  | testCase => exact cases.stage_of_mem_failures (TestMapping.cases_yield run.mapping)
  | testResult =>
      intro failure member
      refine run.mapping.stage_of_mem_attachResults filled failure ?_
      rw [attached]
      exact member

/-- There is one lineage item for each parent table of each model. -/
theorem length_lineage
    {run : Run σ}
    {sink : Sink σ}
    {state final : σ}
    {settlements : List (Settlement LineageRequest)}
    (settles : Settles sink.lineageReceiver run.lineage state settlements final) :
    settlements.length = (run.models.values.map fun model => model.parents.length).sum := by
  have gives : run.lineage.Gives fun _ => 1 := fun _ _ _ => rfl
  have pairs : (LineagePair.ofModels run.models).length =
      (run.models.values.map fun model => model.parents.length).sum := by
    unfold LineagePair.ofModels SortedMap.values
    rw [List.length_flatMap, List.map_map]
    simp [Function.comp_def]
  have ones : ((LineagePair.ofModels run.models).map fun _ => 1).sum =
      (LineagePair.ofModels run.models).length := by
    simp
  rw [settles.length_eq_itemsLeft gives, ← pairs, ← ones]
  exact Nat.zero_add _

end Run

/-- Accounting for a run, with any collaborators. Behind what stood in the report stand the failures
of each stage in turn, all bearing their stage; the counts are those of the requests returned, which
are those that were accepted, in order; and of lineage, setup and cases every item is accepted or
recorded as a failure. There are as many lineage items as parent tables of models. -/
theorem Run.execute_accounted
    {σ : Type}
    {context : Context σ}
    {wanted : Bool}
    {loaded : LoadedArtifacts}
    {before : σ}
    {run : Run σ}
    (prepared : (Run.prepare context wanted loaded before).1 = some run)
    (sink : Sink σ)
    (report : Report)
    (counted : report.summary.failures = report.failures.length)
    (state : σ) :
    let executed := run.execute sink report state
    let emitted := executed.1.1
    let final := executed.1.2
    ∃ ledger,
      run.SettledAs sink state ledger executed.2 ∧
      emitted = acceptedIn ledger ∧
      final.failures =
        report.failures ++ Stage.inOrder.flatMap (run.failuresAt sink ledger) ∧
      (∀ stage, ∀ failure ∈ run.failuresAt sink ledger stage, failure.stage = stage) ∧
      final.summary =
        { dataModels := run.models.size
          lineageEdges := emitted.lineage.length
          testSuites := emitted.suites.length
          testDefinitions := emitted.definitions.length
          testCases := emitted.cases.length
          testResults := ledger.attachment.submitted
          failures := final.failures.length } ∧
      ledger.lineage.length =
        emitted.lineage.length + (run.failuresAt sink ledger .lineage).length ∧
      ledger.setup.length =
        emitted.suites.length + emitted.definitions.length +
          (run.failuresAt sink ledger .testSetup).length ∧
      ledger.cases.length =
        emitted.cases.length + (run.failuresAt sink ledger .testCase).length ∧
      ledger.lineage.length = (run.models.values.map fun model => model.parents.length).sum := by
  intro executed emitted final
  obtain ⟨merging, resolving⟩ := stage_of_prepare prepared
  obtain ⟨ledger, reached, settled, same⟩ := run.execute_settled sink report state
  have sameState : executed.2 = reached := congrArg (·.2) same
  have sameEmitted : emitted = acceptedIn ledger := congrArg (·.1.1) same
  have sameReport : final = run.reportOn sink ledger report := congrArg (·.1.2) same
  have failures : final.failures =
      report.failures ++ Stage.inOrder.flatMap (run.failuresAt sink ledger) := by
    rw [sameReport]
    exact run.failures_reportOn sink ledger report
  refine ⟨ledger, sameState ▸ settled, sameEmitted, failures,
    stage_of_mem_failuresAt merging resolving settled, ?_, ?_, ?_, ?_, ?_⟩
  · rw [sameEmitted, failures, List.length_append, ← counted, sameReport]
    exact run.summary_reportOn sink ledger report
  · rw [sameEmitted]
    exact (Settlement.length_taken_add_length_failures _ ledger.lineage).symm
  · rw [sameEmitted, ← Settlement.length_taken_add_length_failures sink.setupReceiver ledger.setup,
      ← SetupRequest.length_suites_add_length_definitions]
    rfl
  · rw [sameEmitted]
    exact (Settlement.length_taken_add_length_failures _ ledger.cases).symm
  · obtain ⟨linked, arranged, filled, lineage, -⟩ := settled
    exact length_lineage lineage

/-- A manifest with a model on a source table, another dependency that is missing, and a test. -/
def Manifest.ordersWithTest : Manifest :=
  let node (kind name : String) (dependsOn : List String) (more : List (String × Json.Value)) :
      Json.Value :=
    .object
      ([("name", .string name), ("resource_type", .string kind), ("database", .string "db"),
        ("schema", .string "sales"),
        ("depends_on", .object [("nodes", .ofStrings dependsOn)])] ++ more)
  { metadata := default
    nodes := .ofList
      [("model.shop.orders", node "model" "orders" ["source.shop.raw", "model.shop.gone"] []),
        ("test.shop.unique", node "test" "unique" ["model.shop.orders"]
          [("test_metadata", .object [("name", .string "unique")])])]
    sources := .ofList [("source.shop.raw", node "source" "raw" [] [])] }

/-- Without tables in the catalog, the edge from the source fails, and so does the case. -/
theorem Run.execute_accounted_on_orders :
    let context := Context.inMemory "svc"
    let catalog : CatalogArtifact := ⟨.empty, .empty⟩
    let run := (Run.ofArtifacts context Manifest.ordersWithTest catalog none (Store.empty 0)).1
    let report := Report.new "svc" ""
    (Run.prepare context true ⟨some Manifest.ordersWithTest, some catalog, none⟩
        (Store.empty 0)).1 = some run ∧
      report.summary.failures = report.failures.length ∧
      (run.execute Store.sink report (Store.empty 0)).1.2.failures.map (·.stage) =
        [.dataModel, .lineage, .testCase] ∧
      ∃ ledger, run.SettledAs Store.sink (Store.empty 0) ledger
          (run.execute Store.sink report (Store.empty 0)).2 ∧
        ledger.lineage.length = 1 := by
  intro context catalog run report
  have prepared : (Run.prepare context true ⟨some Manifest.ordersWithTest, some catalog, none⟩
      (Store.empty 0)).1 = some run := rfl
  obtain ⟨ledger, settled, -, -, -, -, -, -, -, counted⟩ :=
    Run.execute_accounted prepared Store.sink report rfl (Store.empty 0)
  refine ⟨prepared, rfl, by decide +kernel, ledger, settled, counted.trans ?_⟩
  decide +kernel

end CatalogIngest
