import CatalogIngest.Ingest.Run

/-!
# Listings

The lines that the commands print: the summary of a report, and the data models of a run.
-/

namespace CatalogIngest
namespace Cli

/-- The line above and below a heading. -/
def rule : String :=
  String.ofList (List.replicate 60 '=')

/-- A heading between rules. -/
def heading (title : String) : List String :=
  ["", rule, title, rule, ""]

/-- The line on a failure that a report lists. -/
def failureLine (failure : Failure) : String :=
  "  [" ++ failure.kind.code ++ "] " ++ failure.stage.name ++ " " ++ failure.subject ++ ": " ++
    failure.message

/-- The lines on the counts of a report. -/
def summaryLines (summary : Summary) : List String :=
  ["Summary:",
    "  Data models:      " ++ Number.decimal summary.dataModels,
    "  Lineage edges:    " ++ Number.decimal summary.lineageEdges,
    "  Test suites:      " ++ Number.decimal summary.testSuites,
    "  Test definitions: " ++ Number.decimal summary.testDefinitions,
    "  Test cases:       " ++ Number.decimal summary.testCases,
    "  Test results:     " ++ Number.decimal summary.testResults,
    "  Skipped:          " ++ Number.decimal summary.failures,
    ""]

/-- The lines on what a report's run left out. -/
def skippedLines (report : Report) : List String :=
  if report.isComplete then ["✓ Everything ingested"]
  else "Skipped entities:" :: report.failures.map failureLine

/-- The lines on a report. -/
def reportLines (report : Report) : List String :=
  heading "dbt Ingestion Report" ++
    ["Version: " ++ report.version.display, "Generated: " ++ report.generatedAt,
      "Service: " ++ report.service, ""] ++
    summaryLines report.summary ++ skippedLines report

/-- The lines on the parent tables of a data model. -/
def parentLines (parents : List String) : List String :=
  if parents.isEmpty then ["  Upstream: none"]
  else "  Upstream:" :: parents.map fun name => "    - " ++ name

/-- The line on the owner of a data model. -/
def ownerLine : Option EntityReference → String
  | some owner => "  Owner:    " ++ owner.id.text ++ " (" ++ owner.type ++ ")"
  | none => "  Owner:    none"

/-- The lines on a data model. -/
def modelLines (name : String) (model : DataModel) : List String :=
  ["Model: " ++ name, "  Columns:  " ++ Number.decimal model.columns.length] ++
    parentLines model.parents ++ [ownerLine model.owner, ""]

/-- The lines on the data models of a run. -/
def runLines {σ : Type} (run : Run σ) : List String :=
  let skipped := run.preparationFailures.length
  heading "dbt Data Models" ++
    run.models.entries.flatMap (fun entry => modelLines entry.1 entry.2) ++
    [Number.decimal run.models.size ++ " data models, " ++ Number.decimal run.tests.size ++
      " tests"] ++
    if skipped = 0 then []
    else [Number.decimal skipped ++ " entities skipped, rerun with --verbose for details"]

end Cli
end CatalogIngest
