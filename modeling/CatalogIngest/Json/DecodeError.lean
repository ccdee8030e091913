import CatalogIngest.Json.Value
import CatalogIngest.Text.Quoted

/-!
# Why a value does not decode

Each cause carries what was found and what was wanted; `DecodeError.message` puts it into words.
-/

namespace CatalogIngest
namespace Json

/-- A value as a message shows it. -/
inductive Found
  | null
  | boolean (value : Bool)
  | integer (value : Int)
  | float (value : Float)
  | string (text : String)
  | sequence
  | map

namespace Found

/-- What a message shows of a value. -/
def ofValue : Value → Found
  | .null => .null
  | .boolean value => .boolean value
  | .number (.integer value) => .integer value
  | .number (.float value) => .float value
  | .string text => .string text
  | .array _ => .sequence
  | .object _ => .map

/-- The words for a found value. -/
def text : Found → String
  | .null => "null"
  | .boolean true => "boolean `true`"
  | .boolean false => "boolean `false`"
  | .integer value => "integer `" ++ CatalogIngest.Number.signedDecimal value ++ "`"
  | .float value => "floating point `" ++ CatalogIngest.Number.floatText value ++ "`"
  | .string text => "string " ++ Text.quote text
  | .sequence => "sequence"
  | .map => "map"

end Found

/-- Why a value does not decode. -/
inductive DecodeError
  | missingField (name : String)
  | duplicateField (name : String)
  | invalidType (found : Found) (wanted : String)
  | invalidValue (found : Found) (wanted : String)
  | invalidLength (length : Nat) (wanted : String)
  | unknownVariant (name : String) (known : List String)
  | invalidLink (text : String)

namespace DecodeError

/-- Names between backticks, separated by commas. -/
def namesList : List String → String
  | [] => ""
  | [name] => "`" ++ name ++ "`"
  | name :: names => "`" ++ name ++ "`, " ++ namesList names

/-- The choice among known names. -/
def choice : List String → String
  | [] => "there are no variants"
  | [name] => "expected `" ++ name ++ "`"
  | [first, second] => "expected `" ++ first ++ "` or `" ++ second ++ "`"
  | names => "expected one of " ++ namesList names

/-- The words for an error. -/
def message : DecodeError → String
  | .missingField name => "missing field `" ++ name ++ "`"
  | .duplicateField name => "duplicate field `" ++ name ++ "`"
  | .invalidType found wanted => "invalid type: " ++ found.text ++ ", expected " ++ wanted
  | .invalidValue found wanted => "invalid value: " ++ found.text ++ ", expected " ++ wanted
  | .invalidLength length wanted =>
      "invalid length " ++ CatalogIngest.Number.decimal length ++ ", expected " ++ wanted
  | .unknownVariant name known => "unknown variant `" ++ name ++ "`, " ++ choice known
  | .invalidLink text => "Invalid entity link: " ++ text

end DecodeError
end Json
end CatalogIngest
