import CatalogIngest.Column

/-!
# Warehouse relations

What was found in the warehouse under the key of a node: the table's metadata and its columns. Each
column is decoded on its own, so that a bad one does not spoil the others.
-/

namespace CatalogIngest

/-- The metadata of a relation. -/
structure RelationMetadata where
  relationType : Option String
  database : Option String
  schema : Option String
  name : Option String
  comment : Option String
  owner : Option String
  deriving DecidableEq, Inhabited

/-- A relation, with its columns as they were found. -/
structure CatalogNode where
  metadata : RelationMetadata
  columns : SortedMap Json.Value
  uniqueId : Option String
  deriving Inhabited

/-- A column of a relation. -/
structure CatalogColumn where
  name : String
  dataType : String
  index : UInt32
  comment : Option String
  deriving DecidableEq, Inhabited

namespace RelationMetadata

/-- The JSON form of the metadata. -/
def encode (metadata : RelationMetadata) : Json.Value :=
  .object
    [("type", .ofOption .string metadata.relationType),
      ("database", .ofOption .string metadata.database),
      ("schema", .ofOption .string metadata.schema),
      ("name", .ofOption .string metadata.name),
      ("comment", .ofOption .string metadata.comment),
      ("owner", .ofOption .string metadata.owner)]

/-- Decode the metadata. -/
def decode : Json.Decoder RelationMetadata :=
  (Json.Fields.build RelationMetadata.mk
    |>.field (.nullable "type" .string)
    |>.field (.nullable "database" .string)
    |>.field (.nullable "schema" .string)
    |>.field (.nullable "name" .string)
    |>.field (.nullable "comment" .string)
    |>.field (.nullable "owner" .string)).decode "struct CatalogTableMetadata"

end RelationMetadata

namespace CatalogColumn

/-- The JSON form of a column. -/
def encode (column : CatalogColumn) : Json.Value :=
  .object
    [("name", .string column.name), ("type", .string column.dataType),
      ("index", .ofNat column.index.toNat), ("comment", .ofOption .string column.comment)]

/-- Decode a column. -/
def decode : Json.Decoder CatalogColumn :=
  (Json.Fields.build CatalogColumn.mk
    |>.field (.required "name" .string)
    |>.field (.required "type" .string)
    |>.field (.required "index" .word32)
    |>.field (.nullable "comment" .string)).decode "struct CatalogColumn"

end CatalogColumn

namespace CatalogNode

/-- The JSON form of a relation. -/
def encode (node : CatalogNode) : Json.Value :=
  .object
    [("metadata", node.metadata.encode), ("columns", .object node.columns.entries),
      ("unique_id", .ofOption .string node.uniqueId)]

/-- Decode a relation. -/
def decode : Json.Decoder CatalogNode :=
  (Json.Fields.build CatalogNode.mk
    |>.field (.required "metadata" RelationMetadata.decode)
    |>.field (.defaulted "columns" .empty (.map .raw))
    |>.field (.nullable "unique_id" .string)).decode "struct CatalogNode"

/-- Each column by its key, decoded on its own. -/
def decodedColumns (node : CatalogNode) :
    List (String × Except Json.DecodeError CatalogColumn) :=
  node.columns.entries.map fun entry => (entry.1, CatalogColumn.decode .direct entry.2)

/-- The owner of a relation, if one is known. -/
def owner (node : CatalogNode) : Option String :=
  nonempty? node.metadata.owner

end CatalogNode
end CatalogIngest
