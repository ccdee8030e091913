import CatalogIngest.Entity
import CatalogIngest.EntityLink
import CatalogIngest.Json.Tagged

/-!
# Requests for lineage and tests

What a run asks the catalog to record: lineage edges between tables, and the suites, definitions and
cases of tests.
-/

namespace CatalogIngest

/-- A directed edge between two entities. -/
structure LineageEdge where
  source : EntityReference
  target : EntityReference
  deriving DecidableEq, Inhabited

/-- The request to record a lineage edge. -/
structure LineageRequest where
  edge : LineageEdge
  deriving DecidableEq, Inhabited

/-- The request to create a test suite. -/
structure SuiteRequest where
  name : String
  description : String
  deriving DecidableEq, Inhabited

/-- What a test definition applies to. -/
inductive TestTarget
  | table
  | column
  deriving DecidableEq, Inhabited

/-- The tool that runs a test. -/
inductive TestPlatform
  | dbt
  deriving DecidableEq, Inhabited

/-- A parameter that a test definition declares. -/
structure ParameterDefinition where
  name : String
  displayName : String
  required : Bool
  deriving DecidableEq, Inhabited

/-- The request to create a test definition. -/
structure DefinitionRequest where
  name : String
  description : String
  target : TestTarget
  platforms : List TestPlatform
  parameters : List ParameterDefinition
  deriving DecidableEq, Inhabited

/-- The value of a parameter of a test case. -/
structure ParameterValue where
  name : String
  value : String
  deriving DecidableEq, Inhabited

/-- The request to create a test case. -/
structure CaseRequest where
  name : String
  description : String
  definition : EntityReference
  link : EntityLink
  suite : EntityReference
  parameters : List ParameterValue
  deriving DecidableEq, Inhabited

/-- A request of the setup stage. -/
inductive SetupRequest
  | suite (request : SuiteRequest)
  | definition (request : DefinitionRequest)
  deriving DecidableEq, Inhabited

namespace LineageEdge

/-- The JSON form of an edge. -/
def encode (edge : LineageEdge) : Json.Value :=
  .object [("fromEntity", edge.source.encode), ("toEntity", edge.target.encode)]

/-- Decode an edge. -/
def decode : Json.Decoder LineageEdge :=
  (Json.Fields.build LineageEdge.mk
    |>.field (.required "fromEntity" EntityReference.decode)
    |>.field (.required "toEntity" EntityReference.decode)).decode "struct EntitiesEdge"

end LineageEdge

namespace LineageRequest

/-- The JSON form of a request for an edge. -/
def encode (request : LineageRequest) : Json.Value :=
  .object [("edge", request.edge.encode)]

/-- Decode a request for an edge. -/
def decode : Json.Decoder LineageRequest :=
  (Json.Fields.build LineageRequest.mk
    |>.field (.required "edge" LineageEdge.decode)).decode "struct AddLineageRequest"

end LineageRequest

namespace SuiteRequest

/-- The members of the JSON form of a suite request. -/
def members (request : SuiteRequest) : List (String × Json.Value) :=
  [("name", .string request.name), ("description", .string request.description)]

/-- The JSON form of a suite request. -/
def encode (request : SuiteRequest) : Json.Value :=
  .object request.members

/-- Decode a suite request. -/
def decode : Json.Decoder SuiteRequest :=
  (Json.Fields.build SuiteRequest.mk
    |>.field (.required "name" .string)
    |>.field (.required "description" .string)).decode "struct CreateTestSuiteRequest"

end SuiteRequest

namespace TestTarget

/-- The JSON form of a target. -/
def encode : TestTarget → Json.Value
  | .table => .string "TABLE"
  | .column => .string "COLUMN"

/-- Decode a target. -/
def decode : Json.Decoder TestTarget :=
  .choice [("TABLE", .table), ("COLUMN", .column)]

end TestTarget

namespace TestPlatform

/-- The JSON form of a platform. -/
def encode : TestPlatform → Json.Value
  | .dbt => .string "DBT"

/-- Decode a platform. -/
def decode : Json.Decoder TestPlatform :=
  .choice [("DBT", .dbt)]

end TestPlatform

namespace ParameterDefinition

/-- The JSON form of a declared parameter. -/
def encode (parameter : ParameterDefinition) : Json.Value :=
  .object
    [("name", .string parameter.name), ("displayName", .string parameter.displayName),
      ("required", .boolean parameter.required)]

/-- Decode a declared parameter. -/
def decode : Json.Decoder ParameterDefinition :=
  (Json.Fields.build ParameterDefinition.mk
    |>.field (.required "name" .string)
    |>.field (.required "displayName" .string)
    |>.field (.required "required" .boolean)).decode "struct TestCaseParameterDefinition"

end ParameterDefinition

namespace DefinitionRequest

/-- The members of the JSON form of a definition request. -/
def members (request : DefinitionRequest) : List (String × Json.Value) :=
  [("name", .string request.name), ("description", .string request.description),
    ("entityType", request.target.encode),
    ("testPlatforms", .array (request.platforms.map TestPlatform.encode)),
    ("parameterDefinition", .array (request.parameters.map ParameterDefinition.encode))]

/-- The JSON form of a definition request. -/
def encode (request : DefinitionRequest) : Json.Value :=
  .object request.members

/-- Decode a definition request. -/
def decode : Json.Decoder DefinitionRequest :=
  (Json.Fields.build DefinitionRequest.mk
    |>.field (.required "name" .string)
    |>.field (.required "description" .string)
    |>.field (.required "entityType" TestTarget.decode)
    |>.field (.required "testPlatforms" (.list TestPlatform.decode))
    |>.field (.required "parameterDefinition" (.list ParameterDefinition.decode))).decode
      "struct CreateTestDefinitionRequest"

end DefinitionRequest

namespace ParameterValue

/-- The JSON form of a parameter value. -/
def encode (parameter : ParameterValue) : Json.Value :=
  .object [("name", .string parameter.name), ("value", .string parameter.value)]

/-- Decode a parameter value. -/
def decode : Json.Decoder ParameterValue :=
  (Json.Fields.build ParameterValue.mk
    |>.field (.required "name" .string)
    |>.field (.required "value" .string)).decode "struct TestCaseParameterValue"

end ParameterValue

namespace CaseRequest

/-- The JSON form of a case request. -/
def encode (request : CaseRequest) : Json.Value :=
  .object
    [("name", .string request.name), ("description", .string request.description),
      ("testDefinition", request.definition.encode), ("entityLink", request.link.encode),
      ("testSuite", request.suite.encode),
      ("parameterValues", .array (request.parameters.map ParameterValue.encode))]

/-- Decode a case request. -/
def decode : Json.Decoder CaseRequest :=
  (Json.Fields.build CaseRequest.mk
    |>.field (.required "name" .string)
    |>.field (.required "description" .string)
    |>.field (.required "testDefinition" EntityReference.decode)
    |>.field (.required "entityLink" EntityLink.decode)
    |>.field (.required "testSuite" EntityReference.decode)
    |>.field (.required "parameterValues" (.list ParameterValue.decode))).decode
      "struct CreateTestCaseRequest"

end CaseRequest

namespace SetupRequest

/-- The JSON form of a setup request: that of the request with a tag. -/
def encode : SetupRequest → Json.Value
  | .suite request => .object (("request", .string "suite") :: request.members)
  | .definition request => .object (("request", .string "definition") :: request.members)

/-- Decode a setup request. -/
def decode : Json.Decoder SetupRequest :=
  .variants "TestSetupRequest" "request"
    [("suite", fun source value => (SuiteRequest.decode source value).map .suite),
      ("definition", fun source value =>
        (DefinitionRequest.decode source value).map .definition)]

end SetupRequest

/-- The requests that a run had accepted, by kind and in the order of their emission. -/
structure EmittedRequests where
  lineage : List LineageRequest
  suites : List SuiteRequest
  definitions : List DefinitionRequest
  cases : List CaseRequest
  deriving DecidableEq, Inhabited

namespace EmittedRequests

/-- The members of the JSON form of emitted requests. -/
def members (emitted : EmittedRequests) : List (String × Json.Value) :=
  [("lineage", .array (emitted.lineage.map LineageRequest.encode)),
    ("test_suites", .array (emitted.suites.map SuiteRequest.encode)),
    ("test_definitions", .array (emitted.definitions.map DefinitionRequest.encode)),
    ("test_cases", .array (emitted.cases.map CaseRequest.encode))]

/-- The JSON form of emitted requests. -/
def encode (emitted : EmittedRequests) : Json.Value :=
  .object emitted.members

/-- Decode emitted requests. -/
def decode : Json.Decoder EmittedRequests :=
  (Json.Fields.build EmittedRequests.mk
    |>.field (.required "lineage" (.list LineageRequest.decode))
    |>.field (.required "test_suites" (.list SuiteRequest.decode))
    |>.field (.required "test_definitions" (.list DefinitionRequest.decode))
    |>.field (.required "test_cases" (.list CaseRequest.decode))).decode
      "struct EmittedRequests"

end EmittedRequests
end CatalogIngest
