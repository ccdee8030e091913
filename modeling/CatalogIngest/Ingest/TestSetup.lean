import CatalogIngest.Artifact.ManifestNode
import CatalogIngest.Ingest.Context
import CatalogIngest.Ingest.Sequence

/-!
# Suites and definitions

Test nodes are walked in key order. A suite or definition that the catalog does not know is
requested once: names that were requested or found in the same pass are not looked up again. A name
whose look-up failed, or whose definition could not be made, is tried again at the next node that
bears it.
-/

namespace CatalogIngest

/-- The suite of tests that name none. -/
def defaultSuite : String := "DBT_TEST_SUITE"

namespace ManifestNode

/-- A text in the free-form information of a node. -/
def infoText (node : ManifestNode) (key : String) : Option String :=
  (node.info.get? key).bind Json.Value.string?

/-- The name of the suite that a test belongs to. -/
def suiteName (node : ManifestNode) : String :=
  (nonempty? (node.infoText "test_suite_name")).getD defaultSuite

/-- The description of the suite that a test belongs to, under either of two spellings. -/
def suiteDescription (node : ManifestNode) : String :=
  match node.infoText "test_suite_description" with
  | some text => text
  | none => (node.infoText "test_suite_desciption").getD ""

/-- The request for the suite of a test. -/
def suiteRequest (node : ManifestNode) : SuiteRequest :=
  ⟨node.suiteName, node.suiteDescription⟩

/-- The generic test behind a test node, which must be known. -/
def requireMetadata (node : ManifestNode) (key : String) (stage : Stage) :
    Except Failure TestMetadata :=
  match node.testMetadata with
  | some metadata => .ok metadata
  | none => .error (.shape stage key "test node has no test_metadata")

/-- The definition of a test with given metadata. -/
def definitionWith (node : ManifestNode) (metadata : TestMetadata) : DefinitionRequest :=
  { name := node.name
    description := node.description.getD ""
    target := if node.declaredColumn.isSome then .column else .table
    platforms := [.dbt]
    parameters := [⟨metadata.name, metadata.name, false⟩] }

/-- The request for the definition of a test. -/
def definitionRequest (node : ManifestNode) (key : String) : Except Failure DefinitionRequest :=
  (node.requireMetadata key .testSetup).map node.definitionWith

end ManifestNode

/-- The names that a pass needs not look up again. -/
structure SeenNames where
  suites : List String
  definitions : List String
  deriving DecidableEq, Inhabited

namespace TestSetup

variable {σ : Type}

/-- The items and names that one node adds. -/
abbrev Batch := List (Except Failure SetupRequest)

/-- The suite request of a node, if one is due. -/
def suiteItems (context : Context σ) (key : String) (node : ManifestNode) (seen : List String) :
    StateM σ (Batch × List String) := fun state =>
  let suite := node.suiteName
  if suite ∈ seen then (([], seen), state)
  else
    match (context.entityExists .testSuite suite .testSetup key).run state with
    | (.error failure, state) => (([.error failure], seen), state)
    | (.ok true, state) => (([], suite :: seen), state)
    | (.ok false, state) => (([.ok (.suite node.suiteRequest)], suite :: seen), state)

/-- The definition request of a node, if one is due. -/
def definitionItems (context : Context σ) (key : String) (node : ManifestNode)
    (seen : List String) : StateM σ (Batch × List String) := fun state =>
  if node.name ∈ seen then (([], seen), state)
  else
    match (context.entityExists .testDefinition node.name .testSetup key).run state with
    | (.error failure, state) => (([.error failure], seen), state)
    | (.ok true, state) => (([], node.name :: seen), state)
    | (.ok false, state) =>
        match node.definitionRequest key with
        | .error failure => (([.error failure], seen), state)
        | .ok request => (([.ok (.definition request)], node.name :: seen), state)

/-- The setup requests of one node: first its suite, then its definition. -/
def nodeItems (context : Context σ) (seen : SeenNames) (entry : String × ManifestNode) :
    StateM σ (Batch × SeenNames) := fun state =>
  let ((suites, seenSuites), state) := suiteItems context entry.1 entry.2 seen.suites state
  let ((definitions, seenDefinitions), state) :=
    definitionItems context entry.1 entry.2 seen.definitions state
  ((suites ++ definitions, ⟨seenSuites, seenDefinitions⟩), state)

end TestSetup

/-- The sequence of setup requests. -/
abbrev SetupSequence (σ : Type) :=
  LazySequence σ (String × ManifestNode) SeenNames (Except Failure SetupRequest)

/-- The suite and definition requests of some test nodes. -/
def setupSequence {σ : Type} (context : Context σ) (tests : SortedMap ManifestNode) :
    SetupSequence σ :=
  .ofJobs (TestSetup.nodeItems context) ⟨[], []⟩ tests.entries

end CatalogIngest
