import CatalogIngest.Cli.Options

/-!
# Help

The help on the program and on its commands, laid out from the lists of commands and options.
-/

namespace CatalogIngest
namespace Cli

/-- The name of the program. -/
def programName : String := "dbtmeta"

/-- The version of the program. -/
def programVersion : String := "0.1.0"

/-- A text with blanks behind it, up to a width. -/
def padded (width : Nat) (text : String) : String :=
  text ++ String.ofList (List.replicate (width - text.length) ' ')

namespace Flag

/-- The name of the value of an option. -/
def placeholder? (flag : Flag) : Option String :=
  if flag.takesValue then some (String.ofList (flag.name.toList.map Char.toUpper)) else none

/-- The spelling of an option with its value. -/
def spelling (flag : Flag) : String :=
  "--" ++ flag.name ++
    match flag.placeholder? with
    | some placeholder => " <" ++ placeholder ++ ">"
    | none => ""

/-- What an option is for in some place. -/
def about (scope : Scope) : Flag → String
  | .config => "Path to config file (default: dbtmeta.toml)"
  | .verbose => "Enable verbose output"
  | .help => "Print help"
  | .version => "Print version"
  | .snapshot =>
      match scope with
      | .models => "Catalog snapshot used for owner lookups"
      | _ => "Catalog snapshot to ingest into (starts empty when omitted)"
  | .updateSnapshot => "Write the catalog back to the snapshot file afterwards"
  | .output => "Output file for emitted requests [default: requests.json]"
  | .report => "Output file for the run report [default: report.json]"

/-- The line on an option, with the spelling padded to a width. -/
def line (scope : Scope) (width : Nat) (flag : Flag) : String :=
  let letter := match flag.letter? with
    | some letter => String.ofList ['-', letter, ',', ' ']
    | none => "    "
  "  " ++ letter ++ padded width flag.spelling ++ "  " ++ flag.about scope

end Flag

namespace Scope

/-- What the program or a command does. -/
def about : Scope → String
  | .program => "dbtmeta - dbt artifact ingestion for metadata catalogs"
  | .ingest => "Run every ingestion stage against a catalog snapshot"
  | .models => "Print the data models resolved from the dbt artifacts"

/-- How the program or a command is called. -/
def usage : Scope → String
  | .program => programName ++ " [OPTIONS] <COMMAND>"
  | .ingest => programName ++ " ingest [OPTIONS]"
  | .models => programName ++ " models [OPTIONS]"

/-- The lines on commands. -/
def commandLines : Scope → List String
  | .program =>
      ["Commands:", "  ingest  " ++ Scope.ingest.about, "  models  " ++ Scope.models.about,
        "  help    Print this message or the help of the given subcommand(s)", ""]
  | _ => []

/-- The lines of the help on the program or a command. -/
def help (scope : Scope) : List String :=
  let width := scope.flags.foldl (fun width flag => max width flag.spelling.length) 0
  [scope.about, "", "Usage: " ++ scope.usage, ""] ++ scope.commandLines ++
    "Options:" :: scope.flags.map (Flag.line scope width)

end Scope
end Cli
end CatalogIngest
