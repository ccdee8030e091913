import CatalogIngest.Json.Fields
import CatalogIngest.Time.Timestamp

/-!
# Run results

The record of one executed node: how it ended and when its steps began and completed.
-/

namespace CatalogIngest

/-- A timed step of an execution. -/
structure TimingEntry where
  name : String
  startedAt : Option String
  completedAt : Option String
  deriving DecidableEq, Inhabited

/-- The outcome of executing a node. -/
structure RunResult where
  uniqueId : String
  status : String
  timing : List TimingEntry
  message : Option String
  failures : Option Int64
  executionTime : Float
  deriving Inhabited

namespace TimingEntry

/-- The JSON form of a timed step. -/
def encode (entry : TimingEntry) : Json.Value :=
  .object
    [("name", .string entry.name), ("started_at", .ofOption .string entry.startedAt),
      ("completed_at", .ofOption .string entry.completedAt)]

/-- Decode a timed step. -/
def decode : Json.Decoder TimingEntry :=
  (Json.Fields.build TimingEntry.mk
    |>.field (.required "name" .string)
    |>.field (.nullable "started_at" .string)
    |>.field (.nullable "completed_at" .string)).decode "struct TimingEntry"

end TimingEntry

namespace RunResult

/-- Decode a run result. -/
def decode : Json.Decoder RunResult :=
  (Json.Fields.build RunResult.mk
    |>.field (.required "unique_id" .string)
    |>.field (.defaulted "status" "" .string)
    |>.field (.defaulted "timing" [] (.list TimingEntry.decode))
    |>.field (.nullable "message" .string)
    |>.field (.nullable "failures" .signed64)
    |>.field (.defaulted "execution_time" 0 .float)).decode "struct RunResult"

/-- The completion time of the last execution step that has one. -/
def completedAt (result : RunResult) : Option String :=
  ((result.timing.filter fun entry => entry.name = "execute").filterMap
    (·.completedAt)).getLast?

/-- The completion time in milliseconds, if there is one; or the text that is no timestamp. -/
def completedMillis (result : RunResult) : Except String (Option Int64) :=
  match result.completedAt with
  | none => .ok none
  | some text =>
      match Time.readMillis? text with
      | some millis => .ok (some (Int64.ofInt millis))
      | none => .error text

end RunResult
end CatalogIngest
