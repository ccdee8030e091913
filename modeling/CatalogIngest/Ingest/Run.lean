import CatalogIngest.Ingest.Lineage
import CatalogIngest.Ingest.Model
import CatalogIngest.Ingest.TestMapping

/-!
# Runs

A run is prepared from artifacts and then executed: its lineage, its suites and definitions and its
cases are handed to the catalog one after another, and results are attached last. Whatever fails is
left out and recorded in the report.
-/

namespace CatalogIngest

/-- Artifacts as they could be loaded. -/
structure LoadedArtifacts where
  manifest : Option Manifest
  catalog : Option CatalogArtifact
  runResults : Option RunResults
  deriving Inhabited

/-- A prepared run: merged artifacts, resolved models and the results of the last execution. -/
structure Run (σ : Type) where
  context : Context σ
  artifacts : MergedArtifacts
  resolved : ResolvedModels
  runResults : Option RunResults

namespace Run

variable {σ : Type}

/-- Merge a manifest with a catalog artifact and resolve the data models. -/
def ofArtifacts (context : Context σ) (manifest : Manifest) (catalog : CatalogArtifact)
    (runResults : Option RunResults) : StateM σ (Run σ) := fun state =>
  let artifacts := MergedArtifacts.of manifest catalog
  let (resolved, state) :=
    ModelResolver.resolveAll ⟨context, artifacts, OwnerStrategy.standard⟩ state
  (⟨context, artifacts, resolved, runResults⟩, state)

/-- Prepare a run. There is none unless the configuration asks for it and both the manifest and the
catalog artifact were loaded. -/
def prepare (context : Context σ) (wanted : Bool) (loaded : LoadedArtifacts) :
    StateM σ (Option (Run σ)) := fun state =>
  match wanted, loaded.manifest, loaded.catalog with
  | true, some manifest, some catalog =>
      let (run, state) := ofArtifacts context manifest catalog loaded.runResults state
      (some run, state)
  | _, _, _ => (none, state)

/-- The resolved data models by full name. -/
def models (run : Run σ) : SortedMap DataModel :=
  run.resolved.models

/-- The data model of a full name. -/
def model? (run : Run σ) (name : String) : Option DataModel :=
  run.models.get? name

/-- The test nodes by key. -/
def tests (run : Run σ) : SortedMap ManifestNode :=
  run.resolved.tests

/-- The failures of merging and resolving. -/
def preparationFailures (run : Run σ) : List Failure :=
  run.artifacts.failures ++ run.resolved.failures

/-- The lineage requests of a run. -/
def lineage (run : Run σ) : LineageSequence σ :=
  lineageSequence run.context run.models

/-- The setup requests of a run. -/
def setup (run : Run σ) : SetupSequence σ :=
  setupSequence run.context run.tests

/-- How the tests of a run are mapped. -/
def mapping (run : Run σ) : TestMapping σ :=
  ⟨run.context, run.artifacts, run.tests, run.runResults⟩

/-- The case requests of a run. -/
def cases (run : Run σ) : CaseSequence σ :=
  .ofMapping run.mapping

end Run

namespace Sink

variable {σ : Type}

/-- Turn a refusal into a failure. -/
def outcome {α : Type} (stage : Stage) (subject : String) (call : CatalogCall σ α) :
    StateM σ (Except Failure Unit) := fun state =>
  match call state with
  | (.error error, state) => (.error (.external stage subject error.message), state)
  | (.ok _, state) => (.ok (), state)

/-- Apply a lineage request. -/
def deliverLineage (sink : Sink σ) (request : LineageRequest) :
    StateM σ (Except Failure Unit) :=
  outcome .lineage (request.edge.source.id.text ++ " -> " ++ request.edge.target.id.text)
    (sink.addLineage request)

/-- Apply a setup request. -/
def deliverSetup (sink : Sink σ) : SetupRequest → StateM σ (Except Failure Unit)
  | .suite request => outcome .testSetup request.name (sink.createSuite request)
  | .definition request => outcome .testSetup request.name (sink.createDefinition request)

/-- Apply a case request. -/
def deliverCase (sink : Sink σ) (request : CaseRequest) : StateM σ (Except Failure Unit) :=
  outcome .testCase request.link.display (sink.createCase request)

end Sink

namespace SetupRequest

/-- The suite requests among setup requests. -/
def suites (requests : List SetupRequest) : List SuiteRequest :=
  requests.filterMap fun request =>
    match request with
    | .suite wanted => some wanted
    | .definition _ => none

/-- The definition requests among setup requests. -/
def definitions (requests : List SetupRequest) : List DefinitionRequest :=
  requests.filterMap fun request =>
    match request with
    | .suite _ => none
    | .definition wanted => some wanted

end SetupRequest

namespace Report

/-- Set the number of data models. -/
def countModels (report : Report) (count : Nat) : Report :=
  { report with summary := { report.summary with dataModels := count } }

/-- Set the number of lineage edges. -/
def countLineage (report : Report) (count : Nat) : Report :=
  { report with summary := { report.summary with lineageEdges := count } }

/-- Set the numbers of suites and definitions. -/
def countSetup (report : Report) (suites definitions : Nat) : Report :=
  { report with
    summary := { report.summary with testSuites := suites, testDefinitions := definitions } }

/-- Set the number of test cases. -/
def countCases (report : Report) (count : Nat) : Report :=
  { report with summary := { report.summary with testCases := count } }

/-- Set the number of results and record the failures of attaching them. -/
def addAttachment (report : Report) (attachment : AttachSummary) : Report :=
  recordAll
    { report with summary := { report.summary with testResults := attachment.submitted } }
    attachment.failures

end Report

namespace Run

variable {σ : Type}

/-- Hand every request of a run to the catalog, stage by stage. The accepted requests are returned,
and the report gains the counts and failures of the run. -/
def execute (run : Run σ) (sink : Sink σ) (report : Report) :
    StateM σ (EmittedRequests × Report) := fun state =>
  let report := (report.countModels run.models.size).recordAll run.preparationFailures
  let ((lineage, report), state) := run.lineage.forward sink.deliverLineage report state
  let report := report.countLineage lineage.length
  let ((setup, report), state) := run.setup.forward sink.deliverSetup report state
  let suites := SetupRequest.suites setup
  let definitions := SetupRequest.definitions setup
  let report := report.countSetup suites.length definitions.length
  let ((cases, report, sequence), state) := run.cases.forward sink.deliverCase report state
  let report := report.countCases cases.length
  let report := match sequence.attachment with
    | some attachment => report.addAttachment attachment
    | none => report
  ((⟨lineage, suites, definitions, cases⟩, report), state)

end Run
end CatalogIngest
