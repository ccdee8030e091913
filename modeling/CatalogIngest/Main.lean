import CatalogIngest.Cli.Command
import CatalogIngest.Time.Instant
import Std.Time.DateTime.Timestamp

/-!
# The program

The command line on the real file system, environment and clock.
-/

namespace CatalogIngest
namespace Cli

open Project

/-- The cause of a failed access to a file. -/
def fileError : IO.Error → FileError
  | .noFileOrDirectory .. => .notFound
  | .noSuchThing .. => .notFound
  | .inappropriateType _ 20 _ => .notDirectory
  | .inappropriateType _ 21 _ => .isDirectory
  | error => .other (toString error)

/-- The outcome of an access to a file. -/
def attempt {α : Type} (access : IO α) : IO (Except FileError α) := do
  try
    return .ok (← access)
  catch error =>
    return .error (fileError error)

/-- The files of the operating system. -/
def systemFiles : FileAccess IO where
  read path := attempt (IO.FS.readFile path)
  write path text := attempt (IO.FS.writeFile path text)
  present path := do
    match ← attempt (IO.FS.readFile path) with
    | .error .notFound => return false
    | .error .notDirectory => return false
    | _ => return true

/-- Everything that a command finds around it. -/
def systemSurroundings : IO (Surroundings IO) := do
  let now ← Std.Time.Timestamp.now
  let firstNumber ← IO.rand 0 (Nat.pow 2 127)
  return {
    files := systemFiles
    variableOf := fun name => IO.getEnv name
    now := Time.instantText now.toMillisecondsSinceUnixEpoch.val
    firstNumber := firstNumber }

end Cli
end CatalogIngest

/-- Run the program. -/
def main (arguments : List String) : IO UInt32 := do
  let surroundings ← CatalogIngest.Cli.systemSurroundings
  let outcome ← CatalogIngest.Cli.run surroundings arguments
  for line in outcome.lines do
    IO.println line
  for line in outcome.details do
    IO.eprintln line
  match outcome.error with
  | some error => IO.eprintln ("Error: " ++ error.message)
  | none => pure ()
  return outcome.exitCode.toUInt32
