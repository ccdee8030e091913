import CatalogIngest.Catalog.Store
import CatalogIngest.Json.Document
import CatalogIngest.Json.Printer

/-!
# Catalog snapshots

A snapshot lists the entities of a catalog by their full names. Data models are not listed: they are
made from the artifacts of each run.
-/

namespace CatalogIngest

/-- The names of a catalog's entities. -/
structure Snapshot where
  tables : List String
  users : List String
  teams : List String
  testSuites : List String
  testDefinitions : List String
  testCases : List String
  deriving DecidableEq, Inhabited

namespace Snapshot

/-- The snapshot of an empty catalog. -/
def empty : Snapshot := ⟨[], [], [], [], [], []⟩

/-- The names by kind. -/
def groups (snapshot : Snapshot) : List (EntityKind × List String) :=
  [(.table, snapshot.tables), (.user, snapshot.users), (.team, snapshot.teams),
    (.testSuite, snapshot.testSuites), (.testDefinition, snapshot.testDefinitions),
    (.testCase, snapshot.testCases)]

/-- Read a snapshot from a document. -/
def ofDocument? (document : Json.Document) : Option Snapshot := do
  let parts ← document.fieldParts?
    ["tables", "users", "teams", "test_suites", "test_definitions", "test_cases"]
  match ← parts.mapM (Json.Document.partOr? [] Json.Document.toTexts?) with
  | [tables, users, teams, testSuites, testDefinitions, testCases] =>
      some ⟨tables, users, teams, testSuites, testDefinitions, testCases⟩
  | _ => none

/-- Read a snapshot from its text. -/
def read? (text : String) : Option Snapshot :=
  (Json.Document.read? text).bind ofDocument?

/-- The JSON form of a snapshot. -/
def encode (snapshot : Snapshot) : Json.Value :=
  .object
    [("tables", .ofStrings snapshot.tables), ("users", .ofStrings snapshot.users),
      ("teams", .ofStrings snapshot.teams), ("test_suites", .ofStrings snapshot.testSuites),
      ("test_definitions", .ofStrings snapshot.testDefinitions),
      ("test_cases", .ofStrings snapshot.testCases)]

/-- The text of a snapshot as it is saved. -/
def text (snapshot : Snapshot) : String :=
  snapshot.encode.pretty

end Snapshot

namespace Store

/-- The catalog that holds every entity of a snapshot. -/
def ofSnapshot (firstNumber : Nat) (snapshot : Snapshot) : Store :=
  snapshot.groups.foldl (fun store group => store.addAll group.1 group.2) (empty firstNumber)

/-- The names that a catalog holds at present. -/
def snapshot (store : Store) : Snapshot where
  tables := store.names .table
  users := store.names .user
  teams := store.names .team
  testSuites := store.names .testSuite
  testDefinitions := store.names .testDefinition
  testCases := store.names .testCase

end Store
end CatalogIngest
