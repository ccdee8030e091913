import CatalogIngest.Name.Dotted
import CatalogIngest.Name.Request

/-!
# Table addresses

The address of a table inside a database service. An absent or empty database or schema is called
`default`.
-/

namespace CatalogIngest

/-- Where a table lies inside a service. -/
structure TableAddress where
  database : String
  schema : String
  table : String
  deriving DecidableEq, Inhabited

namespace TableAddress

/-- The name that stands for an absent database or schema. -/
def placeholder : String := "default"

/-- A namespace with the placeholder for an absent or empty one. -/
def orPlaceholder (part : Option String) : String :=
  match part with
  | none => placeholder
  | some name => if name.isEmpty then placeholder else name

/-- The address of a table whose database and schema may be unknown. -/
def of (database schema : Option String) (table : String) : TableAddress :=
  ⟨orPlaceholder database, orPlaceholder schema, table⟩

/-- The dotted text of an address. -/
def display (address : TableAddress) : String :=
  Name.join [address.database, address.schema, address.table]

/-- The request for the name of the table. -/
def tableRequest (address : TableAddress) (service : String) : NameRequest :=
  .table service address.database address.schema address.table

/-- The request for the name of the data model behind the table. -/
def dataModelRequest (address : TableAddress) (service : String) : NameRequest :=
  .dataModel service address.database address.schema address.table

/-- The request for the name of a test case on the table or one of its columns. -/
def testCaseRequest (address : TableAddress) (service : String) (column : Option String)
    (testCase : String) : NameRequest :=
  .testCase service address.database address.schema address.table column testCase

/-- The JSON form of an address. -/
def encode (address : TableAddress) : Json.Value :=
  .object
    [("database", .string address.database), ("schema", .string address.schema),
      ("table", .string address.table)]

/-- Decode an address. -/
def decode : Json.Decoder TableAddress :=
  (Json.Fields.build TableAddress.mk
    |>.field (.required "database" .string)
    |>.field (.required "schema" .string)
    |>.field (.required "table" .string)).decode "struct TableIdentifier"

end TableAddress
end CatalogIngest
