import CatalogIngest.Catalog.Snapshot
import CatalogIngest.Cli.Help
import CatalogIngest.Cli.Listing
import CatalogIngest.Ingest.Ingestion
import CatalogIngest.Project.Artifacts
import CatalogIngest.Project.Environment

/-!
# Running commands

A command reads the configuration, the catalog snapshot and the artifacts, and prints a listing;
ingestion also writes the accepted requests, the report and, if asked to, the snapshot. Files and
variables are reached through operations in any monad.
-/

namespace CatalogIngest
namespace Cli

open Project

/-- What a command finds around it: files, variables, the time, and the number of the first entity
that its catalog creates. -/
structure Surroundings (m : Type → Type) where
  files : FileAccess m
  variableOf : String → m (Option String)
  now : String
  firstNumber : Nat

/-- Why a command fails. -/
inductive CommandError
  | config (path : String)
  | standardConfig (cause : ConfigError)
  | snapshot (path : String)
  | output (path : String)
  | report (cause : FileError)
  | snapshotUpdate (path : String) (cause : FileError)
  | noModels
  deriving DecidableEq

/-- What a command comes to: its exit code, the lines it prints, and details and an error for the
error stream. -/
structure Outcome where
  exitCode : UInt8
  lines : List String
  details : List String
  error : Option CommandError

/-- The configuration file of a project unless another one is named. -/
def standardConfigPath : String := "dbtmeta.toml"

/-- The file of variables that is read if it is there. -/
def variablesPath : String := ".env"

/-- The variable that replaces the service of the configuration. -/
def serviceVariable : String := "DBTMETA_SERVICE_NAME"

namespace CommandError

/-- The words for an error. -/
def message : CommandError → String
  | .config path => "Failed to load " ++ path
  | .standardConfig cause => cause.message
  | .snapshot path => "Failed to load catalog snapshot " ++ path
  | .output path => "Failed to write " ++ path
  | .report cause => cause.message
  | .snapshotUpdate path cause =>
      "Failed to read snapshot file " ++ path ++ ": " ++ cause.message
  | .noModels =>
      "No data models: configure a [dbt] section in " ++ standardConfigPath ++
        " and run 'dbt docs generate' first"

end CommandError

/-- A step of a command, which may fail. -/
abbrev Step (m : Type → Type) (α : Type) := ExceptT CommandError m α

variable {m : Type → Type} [Monad m]

/-- The configuration in a file. -/
def readConfig (files : FileAccess m) (path : String) : m (Except ConfigError Config) := do
  match ← files.read path with
  | .error cause => return .error (.unreadable cause.message)
  | .ok text => return Config.readAt path text

/-- The configuration in a named file; or that in the standard file, or without a file. -/
def loadConfig (files : FileAccess m) : Option String → Step m Config
  | some path => do
      match ← ExceptT.lift (readConfig files path) with
      | .error _ => throw (.config path)
      | .ok config => return config
  | none => do
      if ← ExceptT.lift (files.present standardConfigPath) then
        match ← ExceptT.lift (readConfig files standardConfigPath) with
        | .error cause => throw (.standardConfig cause)
        | .ok config => return config
      else return Config.standard ""

/-- The value of the service variable, which the file of variables may set. -/
def loadService (surroundings : Surroundings m) : m (Option String) := do
  match ← surroundings.files.read variablesPath with
  | .error _ => surroundings.variableOf serviceVariable
  | .ok text =>
      let bindings := Environment.read text
      let names := serviceVariable :: bindings.flatMap Environment.Binding.names
      let known ← names.mapM fun name => do return (name, ← surroundings.variableOf name)
      return Environment.extend (fun name => (known.lookup name).join) bindings serviceVariable

/-- The catalog that a snapshot file describes; an empty one without a file. -/
def loadCatalog (surroundings : Surroundings m) : Option String → Step m Store
  | none => return Store.empty surroundings.firstNumber
  | some path => do
      match ← ExceptT.lift (readFile? surroundings.files Snapshot.read? path) with
      | some snapshot => return Store.ofSnapshot surroundings.firstNumber snapshot
      | none => throw (.snapshot path)

/-- Write a file, or fail with an error made from the cause. -/
def save (files : FileAccess m) (path text : String) (wrap : FileError → CommandError) :
    Step m Unit := do
  match ← ExceptT.lift (files.write path text) with
  | .error cause => throw (wrap cause)
  | .ok () => return ()

/-- Run every stage on a catalog, write what came of it, and list the report. Without artifacts to
ingest only an empty report is written. -/
def ingest (surroundings : Surroundings m) (config : Config) (options : IngestOptions) :
    Step m (List String) := do
  let files := surroundings.files
  let store ← loadCatalog surroundings options.snapshot
  let loaded ← ExceptT.lift (loadArtifacts files config)
  match store.ingest config.service surroundings.now config.artifacts.isSome loaded with
  | (none, _) =>
      save files options.report (Report.new config.service surroundings.now).text .report
      return []
  | (some ingestion, store) =>
      save files options.output ingestion.encode.pretty fun _ => .output options.output
      save files options.report ingestion.report.text .report
      match options.updateSnapshot, options.snapshot with
      | true, some path => save files path store.snapshot.text (.snapshotUpdate path)
      | _, _ => pure ()
      return reportLines ingestion.report

/-- Prepare a run and list its data models; also what was left out, in detail. -/
def listModels (surroundings : Surroundings m) (config : Config) (snapshot : Option String) :
    Step m (List String × List String) := do
  let store ← loadCatalog surroundings snapshot
  let loaded ← ExceptT.lift (loadArtifacts surroundings.files config)
  match (Run.prepare (Context.inMemory config.service) config.artifacts.isSome loaded store).1 with
  | none => throw .noModels
  | some run => return (runLines run, run.preparationFailures.map Failure.display)

/-- Do what a command line asks for. The result is what to print, and details. -/
def perform (surroundings : Surroundings m) (invocation : Invocation) :
    Step m (List String × List String) := do
  let service ← ExceptT.lift (loadService surroundings)
  let config ← loadConfig surroundings.files invocation.config
  let config := config.withService service
  match invocation.command with
  | .ingest options =>
      let lines ← ingest surroundings config options
      return (lines, [])
  | .models snapshot => listModels surroundings config snapshot

/-- Run the program with its arguments. -/
def run (surroundings : Surroundings m) (arguments : List String) : m Outcome := do
  match Invocation.read arguments with
  | .error .misuse => return ⟨2, [], Scope.program.help, none⟩
  | .error .version => return ⟨0, [programName ++ " " ++ programVersion], [], none⟩
  | .error (.help scope) => return ⟨0, scope.help, [], none⟩
  | .ok invocation =>
      match ← (perform surroundings invocation).run with
      | .error error => return ⟨1, [], [], some error⟩
      | .ok (lines, details) =>
          return ⟨0, lines, if invocation.verbose then details else [], none⟩

end Cli
end CatalogIngest
