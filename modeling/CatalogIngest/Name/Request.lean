import CatalogIngest.Entity.Kind
import CatalogIngest.Json.Tagged
import CatalogIngest.Text.Quoted

/-!
# Requests for names

The catalog allocates fully qualified names. A request gives either the parts of a place in the
hierarchy of services, databases, schemas and tables, or a pattern for the name of a user or team.
-/

namespace CatalogIngest

/-- What the catalog is asked to name. -/
inductive NameRequest
  | table (service database schema table : String)
  | dataModel (service database schema model : String)
  | testCase (service database schema table : String) (column : Option String)
      (testCase : String)
  | user (pattern : String)
  | team (pattern : String)
  deriving DecidableEq, Inhabited

namespace NameRequest

/-- The kind of entity that a request is about. -/
def kind : NameRequest → EntityKind
  | .table .. => .table
  | .dataModel .. => .dataModel
  | .testCase .. => .testCase
  | .user _ => .user
  | .team _ => .team

/-- The parts of a name from the outside in; users and teams have none. -/
def hierarchy? : NameRequest → Option (List String)
  | .table service database schema name => some [service, database, schema, name]
  | .dataModel service database schema name => some [service, database, schema, name]
  | .testCase service database schema name column testName =>
      some ([service, database, schema, name] ++ column.toList ++ [testName])
  | .user _ => none
  | .team _ => none

/-- The pattern of a user or team. -/
def pattern? : NameRequest → Option String
  | .user pattern => some pattern
  | .team pattern => some pattern
  | _ => none

/-- A labelled text as a message shows it. -/
def shownField (label text : String) : String :=
  label ++ ": " ++ Text.quote text

/-- Labelled fields between braces behind the name of a case. -/
def shownCase (name : String) (fields : List String) : String :=
  name ++ " \x7b " ++ ", ".intercalate fields ++ " \x7d"

/-- A request as messages show it. -/
def shown : NameRequest → String
  | .table service database schema name =>
      shownCase "Table"
        [shownField "service" service, shownField "database" database,
          shownField "schema" schema, shownField "table" name]
  | .dataModel service database schema name =>
      shownCase "DataModel"
        [shownField "service" service, shownField "database" database,
          shownField "schema" schema, shownField "model" name]
  | .testCase service database schema name column testName =>
      shownCase "TestCase"
        [shownField "service" service, shownField "database" database,
          shownField "schema" schema, shownField "table" name,
          "column: " ++ Text.quoteOption column, shownField "test_case" testName]
  | .user pattern => shownCase "User" [shownField "name" pattern]
  | .team pattern => shownCase "Team" [shownField "name" pattern]

/-- The JSON form of a request; the member `entity` names its case. -/
def encode : NameRequest → Json.Value
  | .table service database schema name =>
      .object
        [("entity", .string "table"), ("service", .string service),
          ("database", .string database), ("schema", .string schema), ("table", .string name)]
  | .dataModel service database schema name =>
      .object
        [("entity", .string "dataModel"), ("service", .string service),
          ("database", .string database), ("schema", .string schema), ("model", .string name)]
  | .testCase service database schema name column testName =>
      .object
        [("entity", .string "testCase"), ("service", .string service),
          ("database", .string database), ("schema", .string schema), ("table", .string name),
          ("column", .ofOption .string column), ("test_case", .string testName)]
  | .user pattern => .object [("entity", .string "user"), ("name", .string pattern)]
  | .team pattern => .object [("entity", .string "team"), ("name", .string pattern)]

/-- Decode a request. -/
def decode : Json.Decoder NameRequest :=
  .variants "FqnRequest" "entity"
    [("table",
      (Json.Fields.build NameRequest.table
        |>.field (.required "service" .string)
        |>.field (.required "database" .string)
        |>.field (.required "schema" .string)
        |>.field (.required "table" .string)).decode "struct variant FqnRequest::Table"),
    ("dataModel",
      (Json.Fields.build NameRequest.dataModel
        |>.field (.required "service" .string)
        |>.field (.required "database" .string)
        |>.field (.required "schema" .string)
        |>.field (.required "model" .string)).decode "struct variant FqnRequest::DataModel"),
    ("testCase",
      (Json.Fields.build NameRequest.testCase
        |>.field (.required "service" .string)
        |>.field (.required "database" .string)
        |>.field (.required "schema" .string)
        |>.field (.required "table" .string)
        |>.field (.optional "column" .string)
        |>.field (.required "test_case" .string)).decode "struct variant FqnRequest::TestCase"),
    ("user",
      (Json.Fields.build NameRequest.user
        |>.field (.required "name" .string)).decode "struct variant FqnRequest::User"),
    ("team",
      (Json.Fields.build NameRequest.team
        |>.field (.required "name" .string)).decode "struct variant FqnRequest::Team")]

end NameRequest
end CatalogIngest
