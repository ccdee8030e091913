import CatalogIngest.Ingest.Run
import CatalogIngest.Project.Config
import CatalogIngest.Project.Files

/-!
# Loading artifacts

The artifacts of a project are read from the files that its configuration names. One that cannot be
read, or is no document of its kind, is left out; without artifact paths nothing is read.
-/

namespace CatalogIngest
namespace Project

variable {m : Type → Type} [Monad m]

/-- What a file describes, if it can be read and understood. -/
def readFile? {α : Type} (files : FileAccess m) (read? : String → Option α) (path : String) :
    m (Option α) := do
  match ← files.read path with
  | .error _ => return none
  | .ok text => return read? text

/-- Load the artifacts that a configuration names. -/
def loadArtifacts (files : FileAccess m) (config : Config) : m LoadedArtifacts := do
  match config.artifacts with
  | none => return ⟨none, none, none⟩
  | some paths =>
      let manifest ← readFile? files Manifest.read? (config.resolve paths.manifest)
      let catalog ← readFile? files CatalogArtifact.read? (config.resolve paths.catalog)
      match paths.runResults with
      | none => return ⟨manifest, catalog, none⟩
      | some path =>
          let runResults ← readFile? files RunResults.read? (config.resolve path)
          return ⟨manifest, catalog, runResults⟩

end Project
end CatalogIngest
