import CatalogIngest.Artifact.CatalogNode
import CatalogIngest.Artifact.Documents
import CatalogIngest.Artifact.ManifestNode
import CatalogIngest.Failure

/-!
# Merged artifacts

In each artifact the sources are laid over the nodes, a source winning over a node of the same key.
Then every entity is decoded on its own; one that does not decode is left out and reported.
-/

namespace CatalogIngest

/-- The entities of a manifest and a catalog artifact by key, and what was left out. -/
structure MergedArtifacts where
  manifest : SortedMap ManifestNode
  catalog : SortedMap CatalogNode
  failures : List Failure
  deriving Inhabited

namespace MergedArtifacts

/-- The entities that decode. -/
def decoded {α : Type} (decode : Json.Decoder α) (raw : SortedMap Json.Value) : SortedMap α :=
  raw.filterMap fun _ value => (decode .direct value).toOption

/-- A failure for each entity that does not decode. -/
def malformed {α : Type} (artifact : String) (decode : Json.Decoder α)
    (raw : SortedMap Json.Value) : List Failure :=
  raw.entries.filterMap fun entry =>
    match decode .direct entry.2 with
    | .ok _ => none
    | .error error =>
        some (.shape .merge entry.1 ("malformed " ++ artifact ++ " entity: " ++ error.message))

/-- Merge a manifest with a catalog artifact. -/
def of (manifest : Manifest) (catalog : CatalogArtifact) : MergedArtifacts :=
  let declared := manifest.nodes.overlay manifest.sources
  let found := catalog.nodes.overlay catalog.sources
  { manifest := decoded ManifestNode.decode declared
    catalog := decoded CatalogNode.decode found
    failures := malformed "manifest" ManifestNode.decode declared ++
      malformed "catalog" CatalogNode.decode found }

end MergedArtifacts
end CatalogIngest
