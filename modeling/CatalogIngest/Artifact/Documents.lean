import CatalogIngest.Json.Document

/-!
# Artifact documents

The documents that a project's tool writes. Their nodes, sources and results are kept as raw values,
so that one bad entity cannot spoil a document.
-/

namespace CatalogIngest

/-- The metadata of a manifest. -/
structure ManifestMetadata where
  schemaVersion : Option String
  toolVersion : Option String
  generatedAt : Option String
  invocationId : Option String
  deriving DecidableEq, Inhabited

/-- A manifest: the nodes and sources that a project declares. -/
structure Manifest where
  metadata : ManifestMetadata
  nodes : SortedMap Json.Value
  sources : SortedMap Json.Value
  deriving Inhabited

/-- A catalog artifact: the relations that were found in the warehouse. -/
structure CatalogArtifact where
  nodes : SortedMap Json.Value
  sources : SortedMap Json.Value
  deriving Inhabited

/-- The results of a run, one record for each executed node. -/
structure RunResults where
  results : List Json.Value
  deriving Inhabited

/-- The levels of nesting left for a value that is a member of a member of a document. -/
def entityLevels : Nat := Json.Document.depthLimit - 2

namespace ManifestMetadata

/-- No metadata. -/
def empty : ManifestMetadata := ⟨none, none, none, none⟩

/-- Read the metadata of a manifest. -/
def ofDocument? (document : Json.Document) : Option ManifestMetadata := do
  let parts ← document.fieldParts?
    ["dbt_schema_version", "dbt_version", "generated_at", "invocation_id"]
  match ← parts.mapM (Json.Document.partOr? none Json.Document.toNullableText?) with
  | [schemaVersion, toolVersion, generatedAt, invocationId] =>
      some ⟨schemaVersion, toolVersion, generatedAt, invocationId⟩
  | _ => none

/-- The JSON form of the metadata. -/
def encode (metadata : ManifestMetadata) : Json.Value :=
  .object
    [("dbt_schema_version", .ofOption .string metadata.schemaVersion),
      ("dbt_version", .ofOption .string metadata.toolVersion),
      ("generated_at", .ofOption .string metadata.generatedAt),
      ("invocation_id", .ofOption .string metadata.invocationId)]

end ManifestMetadata

namespace Manifest

/-- The manifest without entities. -/
def empty : Manifest := ⟨.empty, .empty, .empty⟩

/-- Read a manifest from a document. -/
def ofDocument? (document : Json.Document) : Option Manifest := do
  match ← document.fieldParts? ["metadata", "nodes", "sources"] with
  | [metadata, nodes, sources] =>
      let metadata ← Json.Document.partOr? .empty ManifestMetadata.ofDocument? metadata
      let nodes ← Json.Document.partOr? .empty (Json.Document.toValueMap? entityLevels) nodes
      let sources ← Json.Document.partOr? .empty (Json.Document.toValueMap? entityLevels) sources
      some ⟨metadata, nodes, sources⟩
  | _ => none

/-- Read a manifest from its text. -/
def read? (text : String) : Option Manifest :=
  (Json.Document.read? text).bind ofDocument?

/-- The JSON form of a manifest. -/
def encode (manifest : Manifest) : Json.Value :=
  .object
    [("metadata", manifest.metadata.encode), ("nodes", .object manifest.nodes.entries),
      ("sources", .object manifest.sources.entries)]

end Manifest

namespace CatalogArtifact

/-- The catalog artifact without relations. -/
def empty : CatalogArtifact := ⟨.empty, .empty⟩

/-- Read a catalog artifact from a document. -/
def ofDocument? (document : Json.Document) : Option CatalogArtifact := do
  match ← document.fieldParts? ["nodes", "sources"] with
  | [nodes, sources] =>
      let nodes ← Json.Document.partOr? .empty (Json.Document.toValueMap? entityLevels) nodes
      let sources ← Json.Document.partOr? .empty (Json.Document.toValueMap? entityLevels) sources
      some ⟨nodes, sources⟩
  | _ => none

/-- Read a catalog artifact from its text. -/
def read? (text : String) : Option CatalogArtifact :=
  (Json.Document.read? text).bind ofDocument?

/-- The JSON form of a catalog artifact. -/
def encode (artifact : CatalogArtifact) : Json.Value :=
  .object
    [("nodes", .object artifact.nodes.entries), ("sources", .object artifact.sources.entries)]

end CatalogArtifact

namespace RunResults

/-- Read run results from a document. -/
def ofDocument? (document : Json.Document) : Option RunResults := do
  match ← document.fieldParts? ["results"] with
  | [results] =>
      let results ← Json.Document.partOr? [] (Json.Document.toValues? entityLevels) results
      some ⟨results⟩
  | _ => none

/-- Read run results from their text. -/
def read? (text : String) : Option RunResults :=
  (Json.Document.read? text).bind ofDocument?

end RunResults
end CatalogIngest
