import CatalogIngest.Project.Path
import CatalogIngest.Text.Blank
import CatalogIngest.Toml.Reader

/-!
# Configuration

A configuration names the service to ingest into and, if ingestion is wanted, where the artifacts
lie. It is kept as a TOML document.
-/

namespace CatalogIngest
namespace Project

/-- Where the artifacts lie. -/
structure ArtifactPaths where
  manifest : String
  catalog : String
  runResults : Option String
  deriving DecidableEq, Inhabited

/-- The configuration of a project. -/
structure Config where
  service : String
  artifacts : Option ArtifactPaths
  root : String
  deriving DecidableEq, Inhabited

/-- Why a configuration cannot be used. -/
inductive ConfigError
  | unreadable (cause : String)
  | malformed
  | invalid (cause : String)
  deriving DecidableEq

namespace ConfigError

/-- The words for an error. -/
def message : ConfigError → String
  | .unreadable cause => "IO error: " ++ cause
  | .malformed => "Parse error"
  | .invalid cause => "Invalid config: " ++ cause

end ConfigError

namespace ArtifactPaths

/-- Where the artifacts lie unless the configuration says otherwise. -/
def standard : ArtifactPaths :=
  ⟨"target/manifest.json", "target/catalog.json", none⟩

/-- A text, or its default when it is absent. -/
def textOr? (default : String) : Option Toml.Value → Option String
  | none => some default
  | some (.string text) => some text
  | some _ => none

/-- A text that may be absent. -/
def optionalText? : Option Toml.Value → Option (Option String)
  | none => some none
  | some (.string text) => some (some text)
  | some _ => none

/-- Paths from their values, absent ones being standard. -/
def ofValues? (manifest catalog runResults : Option Toml.Value) : Option ArtifactPaths := do
  let manifest ← textOr? standard.manifest manifest
  let catalog ← textOr? standard.catalog catalog
  let runResults ← optionalText? runResults
  return ⟨manifest, catalog, runResults⟩

/-- Read the paths from a table, or from an array of them in order. A date has no members. -/
def ofValue? : Toml.Value → Option ArtifactPaths
  | .table members =>
      ofValues? (members.lookup "manifest") (members.lookup "catalog")
        (members.lookup "run_results")
  | .array items => ofValues? items[0]? items[1]? items[2]?
  | .dateTime _ => some standard
  | _ => none

end ArtifactPaths

namespace Config

/-- Whether a text has nothing but blanks. -/
def isBlankText (text : String) : Bool :=
  (Text.trim text.toList).isEmpty

/-- The configuration that a root table describes, apart from its place. -/
def ofMembers? (members : List (String × Toml.Value)) : Option Config := do
  match members.lookup "service_name", members.lookup "dbt" with
  | some (.string service), none => some ⟨service, none, ""⟩
  | some (.string service), some value =>
      let paths ← ArtifactPaths.ofValue? value
      some ⟨service, some paths, ""⟩
  | _, _ => none

/-- Read a configuration. The service must have a name. -/
def read (text : String) : Except ConfigError Config :=
  match (Toml.read? text).bind ofMembers? with
  | none => .error .malformed
  | some config =>
      if isBlankText config.service then .error (.invalid "service_name must not be empty")
      else .ok config

/-- The configuration of a file, with the file's directory as project root. -/
def readAt (path text : String) : Except ConfigError Config :=
  (read text).map fun config => { config with root := parentPath path }

/-- The configuration without a file. -/
def standard (root : String) : Config :=
  ⟨"default", none, root⟩

/-- Replace the service by another one, unless that is absent or blank. -/
def withService (config : Config) (service : Option String) : Config :=
  match service with
  | none => config
  | some name => if isBlankText name then config else { config with service := name }

/-- A path of the configuration, below the project root unless it is absolute. -/
def resolve (config : Config) (path : String) : String :=
  joinPath config.root path

/-- A key with a text value. -/
def line (key value : String) : String :=
  key ++ " = " ++ Toml.quoted value ++ "\n"

/-- The document of a configuration. -/
def text (config : Config) : String :=
  line "service_name" config.service ++
    match config.artifacts with
    | none => ""
    | some paths =>
        "\n[dbt]\n" ++ line "manifest" paths.manifest ++ line "catalog" paths.catalog ++
          match paths.runResults with
          | none => ""
          | some path => line "run_results" path

end Config
end Project
end CatalogIngest
