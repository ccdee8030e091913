import CatalogIngest.Artifact.Merge
import CatalogIngest.Artifact.RunResult
import CatalogIngest.Ingest.Outcome
import CatalogIngest.Ingest.TestSetup
import CatalogIngest.Json.Printer

/-!
# Test cases and their results

A test has one case for each table it depends on. Once all cases have been handed out, the results
of the last run are submitted to the cases they belong to.
-/

namespace CatalogIngest

/-- How tests are mapped: from which artifacts, which test nodes and which results. -/
structure TestMapping (σ : Type) where
  context : Context σ
  artifacts : MergedArtifacts
  tests : SortedMap ManifestNode
  runResults : Option RunResults

/-- How many results were submitted, and what went wrong. -/
structure AttachSummary where
  submitted : Nat
  failures : List Failure
  deriving DecidableEq, Inhabited

namespace TestMetadata

/-- A value as an argument text: a string is its own text, anything else its JSON text. -/
def argumentText : Json.Value → String
  | .string text => text
  | value => value.compact

/-- The argument `values` as one text, list items separated by commas; empty when absent. -/
def parameterText (metadata : TestMetadata) : String :=
  match metadata.arguments.get? "values" with
  | none => ""
  | some .null => ""
  | some (.array values) => ",".intercalate (values.map argumentText)
  | some value => argumentText value

end TestMetadata

namespace MergedArtifacts

/-- The node of a dependency, which must be in the manifest. -/
def dependency (artifacts : MergedArtifacts) (id : String) (stage : Stage) (subject : String) :
    Except Failure ManifestNode :=
  match artifacts.manifest.get? id with
  | some node => .ok node
  | none =>
      .error (.shape stage subject ("dependency '" ++ id ++ "' not found in manifest"))

end MergedArtifacts

namespace TestMapping

variable {σ : Type}

/-- The link of a test on the table of a full name. -/
def linkTo (test : ManifestNode) (table : String) : EntityLink :=
  ⟨table, test.declaredColumn⟩

/-- What all cases of one test share. -/
structure CaseParts where
  definition : EntityReference
  suite : EntityReference
  parameters : List ParameterValue

/-- Look up what the cases of a test share. -/
def caseParts (mapping : TestMapping σ) (key : String) (test : ManifestNode) :
    Attempt σ CaseParts := do
  let metadata ← ExceptT.mk fun state => (test.requireMetadata key .testCase, state)
  let definition ← mapping.context.requireEntity .testDefinition test.name .testCase key
  let suite ← mapping.context.requireEntity .testSuite test.suiteName .testCase key
  return ⟨definition.reference, suite.reference,
    [⟨metadata.name, metadata.parameterText⟩]⟩

/-- The request for the case of a test on one of its dependencies. -/
def caseOn (mapping : TestMapping σ) (key : String) (test : ManifestNode) (parts : CaseParts)
    (id : String) : Attempt σ CaseRequest := do
  let node ← ExceptT.mk fun state => (mapping.artifacts.dependency id .testCase key, state)
  let table ← mapping.context.requireName
    (node.address.tableRequest mapping.context.service) .testCase key
  return { name := test.name
           description := test.description.getD ""
           definition := parts.definition
           link := linkTo test table
           suite := parts.suite
           parameters := parts.parameters }

/-- The case requests of one test, or the failure that concerns all of them. -/
def caseItems (mapping : TestMapping σ) (entry : String × ManifestNode) :
    StateM σ (List (Except Failure CaseRequest)) := fun state =>
  match (mapping.caseParts entry.1 entry.2).run state with
  | (.error failure, state) => ([.error failure], state)
  | (.ok parts, state) =>
      outcomesOf (entry.2.dependsOn.map (mapping.caseOn entry.1 entry.2 parts)) state

/-- The result that a record describes, with its completion time. -/
def resultOf (record : RunResult) (timestamp : Option Int64) : TestResult :=
  let status := TestStatus.ofRunStatus record.status
  ⟨timestamp, status, [⟨record.uniqueId, Number.signedDecimal status.value⟩]⟩

/-- Submit a result to the case of a test on one of its dependencies. -/
def submitTo (mapping : TestMapping σ) (subject : String) (test : ManifestNode)
    (result : TestResult) (id : String) : Attempt σ String := do
  let node ← ExceptT.mk fun state => (mapping.artifacts.dependency id .testResult subject, state)
  let name ← mapping.context.requireName
    (node.address.testCaseRequest mapping.context.service test.declaredColumn test.name)
    .testResult subject
  ExceptT.mk fun state =>
    match mapping.context.client.submit name result state with
    | (.error error, state) => (.error (.external .testResult name error.message), state)
    | (.ok (), state) => (.ok name, state)

/-- Whether a record that belongs to no test node may be passed over: it is about another node of
the manifest, or not about a test at all. -/
def isForeign (mapping : TestMapping σ) (id : String) : Bool :=
  mapping.artifacts.manifest.contains id || !(Text.afterStart? "test.".toList id.toList).isSome

/-- The outcome of each submission that a record leads to. -/
def recordOutcomes (mapping : TestMapping σ) (record : RunResult) :
    StateM σ (List (Except Failure String)) := fun state =>
  match mapping.tests.get? record.uniqueId with
  | none =>
      if mapping.isForeign record.uniqueId then ([], state)
      else
        ([.error (.miss .testResult record.uniqueId "no test node for this run result")], state)
  | some test =>
      match record.completedMillis with
      | .error text =>
          ([.error (.shape .testResult record.uniqueId (Time.invalidMessage text))], state)
      | .ok timestamp =>
          outcomesOf
            (test.dependsOn.map
              (mapping.submitTo record.uniqueId test (resultOf record timestamp))) state

/-- The outcomes of the record at a position, which may not decode. -/
def entryOutcomes (mapping : TestMapping σ) (position : Nat) (value : Json.Value) :
    StateM σ (List (Except Failure String)) := fun state =>
  match RunResult.decode .direct value with
  | .error error =>
      ([.error (.shape .testResult ("results[" ++ Number.decimal position ++ "]")
        error.message)], state)
  | .ok record => mapping.recordOutcomes record state

/-- The outcomes of records from a position on. -/
def outcomesFrom (mapping : TestMapping σ) (position : Nat) :
    List Json.Value → StateM σ (List (Except Failure String))
  | [] => fun state => ([], state)
  | value :: values => fun state =>
      let (outcomes, state) := mapping.entryOutcomes position value state
      let (later, state) := mapping.outcomesFrom (position + 1) values state
      (outcomes ++ later, state)

/-- Submit every result to the cases it belongs to, in the order of the records. -/
def attachResults (mapping : TestMapping σ) : StateM σ AttachSummary := fun state =>
  match mapping.runResults with
  | none => (⟨0, []⟩, state)
  | some runResults =>
      let (outcomes, state) := mapping.outcomesFrom 0 runResults.results state
      (⟨(successes outcomes).length, failuresAmong outcomes⟩, state)

end TestMapping

/-- The sequence of case requests, which attaches results when its end is first met. -/
structure CaseSequence (σ : Type) where
  mapping : TestMapping σ
  cases : LazySequence σ (String × ManifestNode) Unit (Except Failure CaseRequest)
  attachment : Option AttachSummary

namespace CaseSequence

variable {σ : Type}

/-- The case requests of all tests, none taken yet. -/
def ofMapping (mapping : TestMapping σ) : CaseSequence σ where
  mapping := mapping
  cases := .ofJobs
    (fun _ entry state =>
      let (items, state) := mapping.caseItems entry state
      ((items, ()), state))
    () mapping.tests.entries
  attachment := none

/-- Attach results unless that was done before. -/
def finish (sequence : CaseSequence σ) : StateM σ (CaseSequence σ) := fun state =>
  match sequence.attachment with
  | some _ => (sequence, state)
  | none =>
      let (summary, state) := sequence.mapping.attachResults state
      ({ sequence with attachment := some summary }, state)

/-- Take the next case request. -/
def pull (sequence : CaseSequence σ) :
    StateM σ (Option (Except Failure CaseRequest) × CaseSequence σ) := fun state =>
  match sequence.cases.pull state with
  | ((some item, cases), state) => ((some item, { sequence with cases := cases }), state)
  | ((none, cases), state) =>
      let (sequence, state) := finish { sequence with cases := cases } state
      ((none, sequence), state)

/-- Take at most so many case requests, or all that are left. -/
def pullUpTo (limit : Option Nat) (sequence : CaseSequence σ) :
    StateM σ (List (Except Failure CaseRequest) × CaseSequence σ) := fun state =>
  let ((items, ended, cases), state) := sequence.cases.pullUpTo limit state
  let sequence := { sequence with cases := cases }
  if ended then
    let (sequence, state) := sequence.finish state
    ((items, sequence), state)
  else ((items, sequence), state)

/-- Forward all case requests, then attach results. -/
def forward (sequence : CaseSequence σ) (deliver : CaseRequest → StateM σ (Except Failure Unit))
    (report : Report) : StateM σ (List CaseRequest × Report × CaseSequence σ) := fun state =>
  let ((accepted, report), state) := sequence.cases.forward deliver report state
  let (sequence, state) := finish { sequence with cases := { sequence.cases with
    ready := [], pending := [] } } state
  ((accepted, report, sequence), state)

end CaseSequence
end CatalogIngest
