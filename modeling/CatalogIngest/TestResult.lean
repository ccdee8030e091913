import CatalogIngest.Json.Fields

/-!
# Results of tests
-/

namespace CatalogIngest

/-- How the execution of a test ended. -/
inductive TestStatus
  | success
  | failed
  | aborted
  deriving DecidableEq, Inhabited

/-- A named value that goes with a result. -/
structure ResultValue where
  name : String
  value : String
  deriving DecidableEq, Inhabited

/-- The result of one execution of a test case; the time is in milliseconds since 1970. -/
structure TestResult where
  timestamp : Option Int64
  status : TestStatus
  values : List ResultValue
  deriving DecidableEq, Inhabited

namespace TestStatus

/-- The status of a run: any word but `success` and `failure` counts as aborted. -/
def ofRunStatus (word : String) : TestStatus :=
  if word = "success" then .success
  else if word = "failure" then .failed
  else .aborted

/-- The number recorded with a status. -/
def value : TestStatus → Int
  | .success => 1
  | .failed => 0
  | .aborted => -1

/-- The name of a status. -/
def name : TestStatus → String
  | .success => "Success"
  | .failed => "Failed"
  | .aborted => "Aborted"

/-- The JSON form of a status is its name. -/
def encode (status : TestStatus) : Json.Value :=
  .string status.name

/-- Decode a status from its name. -/
def decode : Json.Decoder TestStatus :=
  .choice ([.success, .failed, .aborted].map fun status => (status.name, status))

end TestStatus

namespace ResultValue

/-- The JSON form of a named value. -/
def encode (value : ResultValue) : Json.Value :=
  .object [("name", .string value.name), ("value", .string value.value)]

/-- Decode a named value. -/
def decode : Json.Decoder ResultValue :=
  (Json.Fields.build ResultValue.mk
    |>.field (.required "name" .string)
    |>.field (.required "value" .string)).decode "struct TestResultValue"

end ResultValue

namespace TestResult

/-- The JSON form of a result. -/
def encode (result : TestResult) : Json.Value :=
  .object
    [("timestamp", .ofOption (fun time => .ofInt time.toInt) result.timestamp),
      ("testCaseStatus", result.status.encode),
      ("testResultValue", .array (result.values.map ResultValue.encode))]

/-- Decode a result. -/
def decode : Json.Decoder TestResult :=
  (Json.Fields.build TestResult.mk
    |>.field (.optional "timestamp" .signed64)
    |>.field (.required "testCaseStatus" TestStatus.decode)
    |>.field (.required "testResultValue" (.list ResultValue.decode))).decode
      "struct TestCaseResult"

end TestResult
end CatalogIngest
