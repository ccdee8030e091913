import CatalogIngest.Json.Tagged

/-!
# Column types

The types of columns, their text as shown to people, and their JSON form, an object whose
member `type` names the type.
-/

namespace CatalogIngest

/-- The type of a column, independent of any warehouse. -/
inductive DataType
  | boolean
  | smallint
  | int
  | bigint
  | float
  | decimal (precision scale : Option UInt16)
  | varchar (length : Option UInt32)
  | char (length : Option UInt32)
  | text
  | date
  | time
  | timestamp
  | binary
  | json
  | struct
  | array (element : DataType)
  | unknown
  deriving DecidableEq, Inhabited

namespace DataType

/-- The decimal text of a 16-bit word. -/
def word16Text (word : UInt16) : String :=
  Number.decimal word.toNat

/-- A type name with an optional length in parentheses. -/
def withLength (name : String) : Option UInt32 → String
  | none => name
  | some length => name ++ "(" ++ Number.decimal length.toNat ++ ")"

/-- The text of a type. A scale is shown only together with a precision. -/
def display : DataType → String
  | .boolean => "BOOLEAN"
  | .smallint => "SMALLINT"
  | .int => "INT"
  | .bigint => "BIGINT"
  | .float => "FLOAT"
  | .decimal (some precision) (some scale) =>
      "DECIMAL(" ++ word16Text precision ++ ", " ++ word16Text scale ++ ")"
  | .decimal (some precision) none => "DECIMAL(" ++ word16Text precision ++ ")"
  | .decimal none _ => "DECIMAL"
  | .varchar length => withLength "VARCHAR" length
  | .char length => withLength "CHAR" length
  | .text => "TEXT"
  | .date => "DATE"
  | .time => "TIME"
  | .timestamp => "TIMESTAMP"
  | .binary => "BINARY"
  | .json => "JSON"
  | .struct => "STRUCT"
  | .array element => "ARRAY<" ++ element.display ++ ">"
  | .unknown => "UNKNOWN"

/-- The JSON object of a type with further members. -/
def tagged (name : String) (members : List (String × Json.Value)) : Json.Value :=
  .object (("type", .string name) :: members)

/-- The JSON form of a type. -/
def encode : DataType → Json.Value
  | .boolean => tagged "boolean" []
  | .smallint => tagged "smallint" []
  | .int => tagged "int" []
  | .bigint => tagged "bigint" []
  | .float => tagged "float" []
  | .decimal precision scale =>
      tagged "decimal"
        [("precision", .ofOption (fun word => .ofNat word.toNat) precision),
          ("scale", .ofOption (fun word => .ofNat word.toNat) scale)]
  | .varchar length =>
      tagged "varchar" [("length", .ofOption (fun word => .ofNat word.toNat) length)]
  | .char length => tagged "char" [("length", .ofOption (fun word => .ofNat word.toNat) length)]
  | .text => tagged "text" []
  | .date => tagged "date" []
  | .time => tagged "time" []
  | .timestamp => tagged "timestamp" []
  | .binary => tagged "binary" []
  | .json => tagged "json" []
  | .struct => tagged "struct" []
  | .array element => tagged "array" [("element_type", element.encode)]
  | .unknown => tagged "unknown" []

/-- The types by name, given the decoder of element types. -/
def variants (element : Json.Decoder DataType) : List (String × Json.Decoder DataType) :=
  [("boolean", .bare .boolean),
    ("smallint", .bare .smallint),
    ("int", .bare .int),
    ("bigint", .bare .bigint),
    ("float", .bare .float),
    ("decimal",
      (Json.Fields.build DataType.decimal
        |>.field (.optional "precision" .word16)
        |>.field (.optional "scale" .word16)).decode "struct variant DataType::Decimal"),
    ("varchar",
      (Json.Fields.build DataType.varchar
        |>.field (.optional "length" .word32)).decode "struct variant DataType::Varchar"),
    ("char",
      (Json.Fields.build DataType.char
        |>.field (.optional "length" .word32)).decode "struct variant DataType::Char"),
    ("text", .bare .text),
    ("date", .bare .date),
    ("time", .bare .time),
    ("timestamp", .bare .timestamp),
    ("binary", .bare .binary),
    ("json", .bare .json),
    ("struct", .bare .struct),
    ("array",
      (Json.Fields.build DataType.array
        |>.field (.required "element_type" element)).decode "struct variant DataType::Array"),
    ("unknown", .bare .unknown)]

/-- Decode a type nested at most so many levels deep. -/
def decodeWithin : Nat → Json.Decoder DataType
  | 0 => fun _ value => Json.mismatch value "internally tagged enum DataType"
  | levels + 1 => .variants "DataType" "type" (variants (decodeWithin levels))

/-- Decode a type. Each level of a type takes a container of its own, so the depth of the value
bounds the levels. -/
def decode : Json.Decoder DataType := fun source value =>
  decodeWithin (value.depth + 1) source value

end DataType
end CatalogIngest
