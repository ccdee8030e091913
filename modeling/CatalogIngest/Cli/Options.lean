import CatalogIngest.Text.Split

/-!
# The command line

Options stand before or behind the name of a command, as `--name`, `--name=value`, `-n`, `-nvalue` or
in clusters such as `-vn value`. They are read from left to right: a request for help or for the
version ends the reading at once, and so does the first misuse. An option is given at most once in
each place; what is given behind the command wins.
-/

namespace CatalogIngest
namespace Cli

/-- An option of the command line. -/
inductive Flag
  | config
  | verbose
  | help
  | version
  | snapshot
  | updateSnapshot
  | output
  | report
  deriving DecidableEq

/-- A place for options: before a command, or behind one of the commands. -/
inductive Scope
  | program
  | ingest
  | models
  deriving DecidableEq

/-- How an ingestion is to be run. -/
structure IngestOptions where
  snapshot : Option String
  updateSnapshot : Bool
  output : String
  report : String
  deriving DecidableEq

/-- What to do. -/
inductive Command
  | ingest (options : IngestOptions)
  | models (snapshot : Option String)
  deriving DecidableEq

/-- What a command line asks for. -/
structure Invocation where
  config : Option String
  verbose : Bool
  command : Command
  deriving DecidableEq

/-- Why a command line leads to no command. -/
inductive Stop
  | misuse
  | help (scope : Scope)
  | version
  deriving DecidableEq

namespace Flag

/-- The name of an option. -/
def name : Flag → String
  | .config => "config"
  | .verbose => "verbose"
  | .help => "help"
  | .version => "version"
  | .snapshot => "snapshot"
  | .updateSnapshot => "update-snapshot"
  | .output => "output"
  | .report => "report"

/-- The letter of an option. -/
def letter? : Flag → Option Char
  | .config => some 'c'
  | .verbose => some 'v'
  | .help => some 'h'
  | .version => some 'V'
  | .snapshot => some 's'
  | .updateSnapshot => none
  | .output => some 'o'
  | .report => some 'r'

/-- Whether an option has a value. -/
def takesValue : Flag → Bool
  | .config => true
  | .snapshot => true
  | .output => true
  | .report => true
  | _ => false

end Flag

namespace Scope

/-- The options of a place. -/
def flags : Scope → List Flag
  | .program => [.config, .verbose, .help, .version]
  | .ingest => [.config, .snapshot, .updateSnapshot, .verbose, .output, .report, .help]
  | .models => [.config, .snapshot, .verbose, .help]

/-- The place behind the command of a name. -/
def ofCommand? (name : String) : Option Scope :=
  if name = "ingest" then some .ingest
  else if name = "models" then some .models
  else none

end Scope

/-- The options that were given in one place. -/
structure Given where
  values : List (Flag × String)
  switches : List Flag

namespace Given

/-- No options. -/
def none : Given := ⟨[], []⟩

/-- The value given for an option. -/
def value? (given : Given) (flag : Flag) : Option String :=
  given.values.lookup flag

/-- Whether an option without value was given. -/
def has (given : Given) (flag : Flag) : Bool :=
  given.switches.contains flag

/-- Give an option a value, which must not be empty. -/
def assign (given : Given) (flag : Flag) (value : String) : Except Stop Given :=
  if value.isEmpty || (given.value? flag).isSome then .error .misuse
  else .ok { given with values := (flag, value) :: given.values }

/-- Give an option without value in some place. -/
def switchOn (given : Given) (scope : Scope) : Flag → Except Stop Given
  | .help => .error (.help scope)
  | .version => .error .version
  | flag =>
      if given.has flag then .error .misuse
      else .ok { given with switches := flag :: given.switches }

end Given

/-- The options given so far, and an option that waits for its value. -/
abbrev Progress := Except Stop (Given × Option Flag)

/-- Read an option that is written with its name, given the text behind the two dashes. -/
def readNamed (scope : Scope) (given : Given) (text : List Char) : Progress :=
  let (name, attached) := match Text.splitAt? ['='] text with
    | some (name, value) => (name, some (String.ofList value))
    | none => (text, none)
  match scope.flags.find? fun flag => flag.name.toList = name, attached with
  | none, _ => .error .misuse
  | some flag, some value =>
      if flag.takesValue then (given.assign flag value).map fun given => (given, none)
      else .error .misuse
  | some flag, none =>
      if flag.takesValue then .ok (given, some flag)
      else (given.switchOn scope flag).map fun given => (given, none)

/-- Read a cluster of letters. An option with a value takes what is left of the cluster, without an
equals sign in front. -/
def readCluster (scope : Scope) (given : Given) : List Char → Progress
  | [] => .ok (given, none)
  | letter :: later =>
      match scope.flags.find? fun flag => flag.letter? = some letter with
      | none => .error .misuse
      | some flag =>
          if flag.takesValue then
            match later with
            | [] => .ok (given, some flag)
            | '=' :: value =>
                (given.assign flag (String.ofList value)).map fun given => (given, none)
            | value => (given.assign flag (String.ofList value)).map fun given => (given, none)
          else
            match given.switchOn scope flag with
            | .error stop => .error stop
            | .ok given => readCluster scope given later

/-- Whether an argument is an option, or the two dashes that end them. A single dash is neither. -/
def isOption (argument : String) : Bool :=
  argument.toList.head? = some '-' && argument ≠ "-"

/-- Read one option. -/
def readOption (scope : Scope) (given : Given) (argument : String) : Progress :=
  match argument.toList with
  | '-' :: '-' :: name => readNamed scope given name
  | '-' :: letters => readCluster scope given letters
  | _ => .error .misuse

/-- Read the options of a place, up to two dashes or an argument that is no option. -/
def readOptions (scope : Scope) (given : Given) :
    List String → Except Stop (Given × List String)
  | [] => .ok (given, [])
  | argument :: later =>
      if isOption argument && argument ≠ "--" then
        match readOption scope given argument with
        | .error stop => .error stop
        | .ok (given, none) => readOptions scope given later
        | .ok (given, some flag) =>
            match later with
            | [] => .error .misuse
            | value :: later =>
                if isOption value then .error .misuse
                else
                  match given.assign flag value with
                  | .error stop => .error stop
                  | .ok given => readOptions scope given later
      else .ok (given, argument :: later)

/-- The command of a place with the options given for it. A snapshot that is to be updated must be
named. -/
def Scope.command (given : Given) : Scope → Except Stop Command
  | .program => .error .misuse
  | .models => .ok (.models (given.value? .snapshot))
  | .ingest =>
      if given.has .updateSnapshot && (given.value? .snapshot).isNone then .error .misuse
      else
        .ok (.ingest
          { snapshot := given.value? .snapshot
            updateSnapshot := given.has .updateSnapshot
            output := (given.value? .output).getD "requests.json"
            report := (given.value? .report).getD "report.json" })

/-- Read the arguments behind the name of a command, given the options before it. -/
def readCommand (before : Given) (scope : Scope) (arguments : List String) :
    Except Stop Invocation := do
  let (given, rest) ← readOptions scope .none arguments
  if rest ≠ [] ∧ rest ≠ ["--"] then throw .misuse
  let command ← scope.command given
  return ⟨(given.value? .config).or (before.value? .config),
    given.has .verbose || before.has .verbose, command⟩

/-- What the command `help` shows. -/
def helpOn : List String → Stop
  | [] => .help .program
  | ["help"] => .help .program
  | [name] => match Scope.ofCommand? name with
    | some scope => .help scope
    | none => .misuse
  | _ => .misuse

/-- Read a command line. -/
def Invocation.read (arguments : List String) : Except Stop Invocation := do
  let (before, rest) ← readOptions .program .none arguments
  match rest with
  | [] => throw .misuse
  | name :: later =>
      if name = "help" then throw (helpOn later)
      match Scope.ofCommand? name with
      | none => throw .misuse
      | some scope => readCommand before scope later

end Cli
end CatalogIngest
