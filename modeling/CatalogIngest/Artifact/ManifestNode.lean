import CatalogIngest.Column
import CatalogIngest.Name.TableAddress

/-!
# Manifest nodes

A node or source of the manifest: a model, seed, snapshot, source or test, with its place in the
warehouse, its code, its documentation and its dependencies.
-/

namespace CatalogIngest

/-- The documentation of a column in the manifest. -/
structure ColumnDefinition where
  name : String
  description : Option String
  dataType : Option String
  deriving Inhabited

/-- The generic test that a test node applies, with its arguments. -/
structure TestMetadata where
  name : String
  namespaceName : Option String
  arguments : SortedMap Json.Value
  deriving Inhabited

/-- A node or source of the manifest. -/
structure ManifestNode where
  uniqueId : String
  name : String
  tableAlias : Option String
  resourceType : String
  database : Option String
  schema : Option String
  rawSql : Option String
  compiledSql : Option String
  description : Option String
  dependsOn : List String
  info : SortedMap Json.Value
  columns : SortedMap ColumnDefinition
  testMetadata : Option TestMetadata
  columnName : Option String
  rootPath : Option String
  filePath : String
  deriving Inhabited

namespace ColumnDefinition

/-- The JSON form of a column definition. -/
def encode (definition : ColumnDefinition) : Json.Value :=
  .object
    [("name", .string definition.name),
      ("description", .ofOption .string definition.description),
      ("data_type", .ofOption .string definition.dataType)]

/-- Decode a column definition. -/
def decode : Json.Decoder ColumnDefinition :=
  (Json.Fields.build ColumnDefinition.mk
    |>.field (.defaulted "name" "" .string)
    |>.field (.nullable "description" .string)
    |>.field (.nullable "data_type" .string)).decode "struct ColumnDefinition"

end ColumnDefinition

namespace TestMetadata

/-- The JSON form of test metadata. -/
def encode (metadata : TestMetadata) : Json.Value :=
  .object
    [("name", .string metadata.name),
      ("namespace", .ofOption .string metadata.namespaceName),
      ("kwargs", .object metadata.arguments.entries)]

/-- Decode test metadata. -/
def decode : Json.Decoder TestMetadata :=
  (Json.Fields.build TestMetadata.mk
    |>.field (.required "name" .string)
    |>.field (.nullable "namespace" .string)
    |>.field (.defaulted "kwargs" .empty (.map .raw))).decode "struct TestMetadata"

end TestMetadata

namespace ManifestNode

/-- Decode the list of dependencies, which stands in a record of its own. -/
def decodeDependencies : Json.Decoder (List String) :=
  (Json.Fields.build id
    |>.field (.defaulted "nodes" [] (.list .string))).decode "struct DependsOn"

/-- Decode a node. -/
def decode : Json.Decoder ManifestNode :=
  (Json.Fields.build ManifestNode.mk
    |>.field (.defaulted "unique_id" "" .string)
    |>.field (.required "name" .string)
    |>.field (.nullable "alias" .string)
    |>.field (.required "resource_type" .string)
    |>.field (.nullable "database" .string)
    |>.field (.nullable "schema" .string)
    |>.field ((Json.Field.nullable "raw_sql" .string).orCalled "raw_code")
    |>.field ((Json.Field.nullable "compiled_sql" .string).orCalled "compiled_code")
    |>.field (.nullable "description" .string)
    |>.field (.defaulted "depends_on" [] decodeDependencies)
    |>.field (.defaulted "meta" .empty (.map .raw))
    |>.field (.defaulted "columns" .empty (.map ColumnDefinition.decode))
    |>.field (.nullable "test_metadata" TestMetadata.decode)
    |>.field (.nullable "column_name" .string)
    |>.field (.nullable "root_path" .string)
    |>.field (.defaulted "original_file_path" "" .string)).decode "struct ManifestNode"

/-- The JSON form of a node. -/
def encode (node : ManifestNode) : Json.Value :=
  .object
    [("unique_id", .string node.uniqueId),
      ("name", .string node.name),
      ("alias", .ofOption .string node.tableAlias),
      ("resource_type", .string node.resourceType),
      ("database", .ofOption .string node.database),
      ("schema", .ofOption .string node.schema),
      ("raw_sql", .ofOption .string node.rawSql),
      ("compiled_sql", .ofOption .string node.compiledSql),
      ("description", .ofOption .string node.description),
      ("depends_on", .object [("nodes", .ofStrings node.dependsOn)]),
      ("meta", .object node.info.entries),
      ("columns", .object (node.columns.map ColumnDefinition.encode).entries),
      ("test_metadata", .ofOption TestMetadata.encode node.testMetadata),
      ("column_name", .ofOption .string node.columnName),
      ("root_path", .ofOption .string node.rootPath),
      ("original_file_path", .string node.filePath)]

/-- Whether a node is a test. -/
def isTest (node : ManifestNode) : Bool :=
  node.resourceType = "test"

/-- The name of the table that a node builds: its alias if it has one, else its name. -/
def tableName (node : ManifestNode) : String :=
  (nonempty? node.tableAlias).getD node.name

/-- The address of the table that a node builds. -/
def address (node : ManifestNode) : TableAddress :=
  .of node.database node.schema node.tableName

/-- The description of a node, if it is not empty. -/
def descriptionText (node : ManifestNode) : Option String :=
  nonempty? node.description

/-- The path of the file that defines a node, below the project root when that is known. -/
def sourcePath (node : ManifestNode) : String :=
  match nonempty? node.rootPath with
  | some root => root ++ "/" ++ node.filePath
  | none => node.filePath

/-- The column that a test is attached to. -/
def declaredColumn (node : ManifestNode) : Option String :=
  nonempty? node.columnName

/-- The definition of a column: the one under the lower-case name, else the first whose name is the
same up to letter case. -/
def columnDefinition (node : ManifestNode) (column : String) : Option ColumnDefinition :=
  let key := Text.lowerString column
  match node.columns.get? key with
  | some definition => some definition
  | none =>
      (node.columns.entries.find? fun entry => Text.lowerString entry.1 = key).map (·.2)

/-- The documentation of a column, if it is not empty. -/
def columnDescription (node : ManifestNode) (column : String) : Option String :=
  nonempty? ((node.columnDefinition column).bind (·.description))

end ManifestNode
end CatalogIngest
