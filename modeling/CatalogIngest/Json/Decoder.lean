import CatalogIngest.Json.DecodeError
import CatalogIngest.SortedMap

/-!
# Decoding values

A decoder turns a value into a typed datum or an error. Members of a variant that is chosen by a tag
are set aside before they are decoded, and a few errors are worded differently for such values; the
source of a value records this.
-/

namespace CatalogIngest
namespace Json

/-- Whether a value comes straight from its document or was set aside first. -/
inductive Source
  | direct
  | setAside
  deriving DecidableEq

/-- A way to read a typed datum from a value. -/
abbrev Decoder (α : Type) := Source → Value → Except DecodeError α

/-- The error for a value of the wrong type. -/
def mismatch {α : Type} (value : Value) (wanted : String) : Except DecodeError α :=
  .error (.invalidType (.ofValue value) wanted)

namespace Decoder

/-- A text. -/
def string : Decoder String
  | _, .string text => .ok text
  | _, value => mismatch value "a string"

/-- A truth value. -/
def boolean : Decoder Bool
  | _, .boolean value => .ok value
  | _, value => mismatch value "a boolean"

/-- A whole number between two bounds. -/
def integerIn (low high : Int) (wanted : String) : Decoder Int
  | _, .number (.integer value) =>
      if low ≤ value ∧ value ≤ high then .ok value
      else .error (.invalidValue (.integer value) wanted)
  | _, value => mismatch value wanted

/-- A number that may be whole. -/
def float : Decoder Float
  | _, .number (.float value) => .ok value
  | _, .number (.integer value) => .ok (Float.ofInt value)
  | _, value => mismatch value "f64"

/-- A word of 16 bits. -/
def word16 : Decoder UInt16 := fun source value =>
  (integerIn 0 65535 "u16" source value).map fun number => UInt16.ofNat number.toNat

/-- A word of 32 bits. -/
def word32 : Decoder UInt32 := fun source value =>
  (integerIn 0 4294967295 "u32" source value).map fun number => UInt32.ofNat number.toNat

/-- A signed number of 64 bits. -/
def signed64 : Decoder Int64 := fun source value =>
  (integerIn (-9223372036854775808) 9223372036854775807 "i64" source value).map Int64.ofInt

/-- A count of things. -/
def count : Decoder Nat := fun source value =>
  (integerIn 0 18446744073709551615 "usize" source value).map Int.toNat

/-- Any value, kept as it is. -/
def raw : Decoder Value := fun _ value => .ok value

/-- A value that may be null. -/
def nullable {α : Type} (decode : Decoder α) : Decoder (Option α)
  | _, .null => .ok none
  | source, value => (decode source value).map some

/-- Decode the items of a list in turn, up to the first error. -/
def items {α : Type} (decode : Decoder α) (source : Source) :
    List Value → Except DecodeError (List α)
  | [] => .ok []
  | value :: values =>
      match decode source value with
      | .error error => .error error
      | .ok item => (items decode source values).map (item :: ·)

/-- An array. -/
def list {α : Type} (decode : Decoder α) : Decoder (List α)
  | source, .array values => items decode source values
  | _, value => mismatch value "a sequence"

/-- Decode the values of members in turn, up to the first error. -/
def bindings {α : Type} (decode : Decoder α) (source : Source) :
    List (String × Value) → Except DecodeError (List (String × α))
  | [] => .ok []
  | (name, value) :: members =>
      match decode source value with
      | .error error => .error error
      | .ok item => (bindings decode source members).map ((name, item) :: ·)

/-- An object whose members all have values of one type. -/
def map {α : Type} (decode : Decoder α) : Decoder (SortedMap α)
  | source, .object members => (bindings decode source members).map SortedMap.ofList
  | _, value => mismatch value "a map"

/-- The value listed under a name. -/
def named {α : Type} (choices : List (String × α)) (name : String) : Except DecodeError α :=
  match choices.lookup name with
  | some value => .ok value
  | none => .error (.unknownVariant name (choices.map (·.1)))

/-- Nothing but null; a value that was set aside may also be an empty object. -/
def nothing : Decoder Unit
  | _, .null => .ok ()
  | .setAside, .object [] => .ok ()
  | _, value => mismatch value "unit"

/-- One of several names, as a text or as the only member of an object, whose value is then
nothing. -/
def choice {α : Type} (choices : List (String × α)) : Decoder α
  | _, .string name => named choices name
  | source, .object [(name, payload)] =>
      match named choices name with
      | .error error => .error error
      | .ok value => (nothing source payload).map fun _ => value
  | _, .object _ => .error (.invalidValue .map "map with a single key")
  | _, value => mismatch value "string or map"

end Decoder
end Json
end CatalogIngest
