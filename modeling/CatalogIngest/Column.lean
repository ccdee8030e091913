import CatalogIngest.DataType
import CatalogIngest.Text.Casing

/-!
# Columns of data models
-/

namespace CatalogIngest

/-- A column of a data model. -/
structure Column where
  name : String
  description : Option String
  dataType : DataType
  dataLength : UInt32
  position : UInt32
  deriving DecidableEq, Inhabited

/-- A text that is present and not empty. -/
def nonempty? (text : Option String) : Option String :=
  text.filter fun content => !content.isEmpty

namespace Column

/-- A column with a lower-case name, of placeholder length 1. An empty description counts as
none. -/
def of (name : String) (dataType : DataType) (position : UInt32) (description : Option String) :
    Column :=
  ⟨Text.lowerString name, nonempty? description, dataType, 1, position⟩

/-- The JSON form of a column. -/
def encode (column : Column) : Json.Value :=
  .object
    [("name", .string column.name), ("description", .ofOption .string column.description),
      ("dataType", column.dataType.encode), ("dataLength", .ofNat column.dataLength.toNat),
      ("ordinalPosition", .ofNat column.position.toNat)]

/-- Decode a column. -/
def decode : Json.Decoder Column :=
  (Json.Fields.build Column.mk
    |>.field (.required "name" .string)
    |>.field (.optional "description" .string)
    |>.field (.required "dataType" DataType.decode)
    |>.field (.required "dataLength" .word32)
    |>.field (.required "ordinalPosition" .word32)).decode "struct Column"

end Column
end CatalogIngest
