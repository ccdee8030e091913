import CatalogIngest.Failure
import CatalogIngest.Json.Printer

/-!
# Run reports

A report counts what a run emitted and lists every failure in the order in which it was met.
-/

namespace CatalogIngest

/-- The version of the report's layout. -/
structure ReportVersion where
  major : UInt32
  minor : UInt32
  deriving DecidableEq, Inhabited

/-- The counts of a run. -/
structure Summary where
  dataModels : Nat
  lineageEdges : Nat
  testSuites : Nat
  testDefinitions : Nat
  testCases : Nat
  testResults : Nat
  failures : Nat
  deriving DecidableEq, Inhabited

/-- What a run did. -/
structure Report where
  version : ReportVersion
  generatedAt : String
  service : String
  summary : Summary
  failures : List Failure
  deriving DecidableEq, Inhabited

namespace ReportVersion

/-- The present layout. -/
def current : ReportVersion := ⟨1, 0⟩

/-- The text of a version. -/
def display (version : ReportVersion) : String :=
  Number.decimal version.major.toNat ++ "." ++ Number.decimal version.minor.toNat

/-- The JSON form of a version. -/
def encode (version : ReportVersion) : Json.Value :=
  .object [("major", .ofNat version.major.toNat), ("minor", .ofNat version.minor.toNat)]

/-- Decode a version. -/
def decode : Json.Decoder ReportVersion :=
  (Json.Fields.build ReportVersion.mk
    |>.field (.required "major" .word32)
    |>.field (.required "minor" .word32)).decode "struct ReportVersion"

end ReportVersion

namespace Summary

/-- The counts before anything happened. -/
def zero : Summary := ⟨0, 0, 0, 0, 0, 0, 0⟩

/-- The JSON form of the counts. -/
def encode (summary : Summary) : Json.Value :=
  .object
    [("data_models", .ofNat summary.dataModels),
      ("lineage_edges", .ofNat summary.lineageEdges),
      ("test_suites", .ofNat summary.testSuites),
      ("test_definitions", .ofNat summary.testDefinitions),
      ("test_cases", .ofNat summary.testCases),
      ("test_results", .ofNat summary.testResults),
      ("failures", .ofNat summary.failures)]

/-- Decode the counts. -/
def decode : Json.Decoder Summary :=
  (Json.Fields.build Summary.mk
    |>.field (.required "data_models" .count)
    |>.field (.required "lineage_edges" .count)
    |>.field (.required "test_suites" .count)
    |>.field (.required "test_definitions" .count)
    |>.field (.required "test_cases" .count)
    |>.field (.required "test_results" .count)
    |>.field (.required "failures" .count)).decode "struct RunSummary"

end Summary

namespace Report

/-- An empty report on a run into a service, made at a given time. -/
def new (service generatedAt : String) : Report :=
  ⟨.current, generatedAt, service, .zero, []⟩

/-- Add a failure to a report and count it. -/
def record (report : Report) (failure : Failure) : Report :=
  { report with
    summary := { report.summary with failures := report.summary.failures + 1 }
    failures := report.failures ++ [failure] }

/-- Add several failures in turn. -/
def recordAll (report : Report) (failures : List Failure) : Report :=
  failures.foldl record report

/-- The failures of one kind. -/
def failuresOf (report : Report) (kind : FailureKind) : List Failure :=
  report.failures.filter fun failure => failure.kind = kind

/-- Whether nothing was left out. -/
def isComplete (report : Report) : Bool :=
  report.failures.isEmpty

/-- The JSON form of a report. -/
def encode (report : Report) : Json.Value :=
  .object
    [("version", report.version.encode), ("generated_at", .string report.generatedAt),
      ("service_name", .string report.service), ("summary", report.summary.encode),
      ("failures", .array (report.failures.map Failure.encode))]

/-- Decode a report. -/
def decode : Json.Decoder Report :=
  (Json.Fields.build Report.mk
    |>.field (.required "version" ReportVersion.decode)
    |>.field (.required "generated_at" .string)
    |>.field (.required "service_name" .string)
    |>.field (.required "summary" Summary.decode)
    |>.field (.required "failures" (.list Failure.decode))).decode "struct RunReport"

/-- The text of a report as it is saved. -/
def text (report : Report) : String :=
  report.encode.pretty

@[simp] theorem failures_record (report : Report) (failure : Failure) :
    (report.record failure).failures = report.failures ++ [failure] := rfl

/-- Recording several failures appends them in order. -/
@[simp] theorem failures_recordAll (report : Report) (failures : List Failure) :
    (report.recordAll failures).failures = report.failures ++ failures := by
  induction failures generalizing report with
  | nil => simp [recordAll]
  | cons failure later ih =>
    have step := ih (report.record failure)
    simpa [recordAll] using step

end Report
end CatalogIngest
