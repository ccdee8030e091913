import CatalogIngest.Column
import CatalogIngest.Entity

/-!
# Data models
-/

namespace CatalogIngest

/-- The tool that a data model comes from. -/
inductive ModelType
  | dbt
  deriving DecidableEq, Inhabited

/-- A table or view that a project builds, with its columns, the tables it is built from and its owner. -/
structure DataModel where
  modelType : ModelType
  description : Option String
  path : String
  rawSql : String
  sql : String
  columns : List Column
  parents : List String
  owner : Option EntityReference
  deriving DecidableEq, Inhabited

namespace ModelType

/-- The JSON form of a model type. -/
def encode : ModelType → Json.Value
  | .dbt => .string "DBT"

/-- Decode a model type. -/
def decode : Json.Decoder ModelType :=
  .choice [("DBT", .dbt)]

end ModelType

namespace DataModel

/-- The JSON form of a data model. -/
def encode (model : DataModel) : Json.Value :=
  .object
    [("modelType", model.modelType.encode),
      ("description", .ofOption .string model.description),
      ("path", .string model.path),
      ("rawSql", .string model.rawSql),
      ("sql", .string model.sql),
      ("columns", .array (model.columns.map Column.encode)),
      ("upstream", .ofStrings model.parents),
      ("owner", .ofOption EntityReference.encode model.owner)]

/-- Decode a data model. -/
def decode : Json.Decoder DataModel :=
  (Json.Fields.build DataModel.mk
    |>.field (.required "modelType" ModelType.decode)
    |>.field (.optional "description" .string)
    |>.field (.required "path" .string)
    |>.field (.required "rawSql" .string)
    |>.field (.required "sql" .string)
    |>.field (.required "columns" (.list Column.decode))
    |>.field (.required "upstream" (.list .string))
    |>.field (.optional "owner" EntityReference.decode)).decode "struct DataModel"

end DataModel
end CatalogIngest
