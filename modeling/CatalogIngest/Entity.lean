import CatalogIngest.Entity.Kind
import CatalogIngest.Json.Fields

/-!
# Entities and references to them
-/

namespace CatalogIngest

/-- The identity that the catalog gives an entity. -/
structure EntityId where
  text : String
  deriving DecidableEq, Inhabited

/-- A pointer to an entity: its identity and the name of its kind. -/
structure EntityReference where
  id : EntityId
  type : String
  deriving DecidableEq, Inhabited

/-- An entity of the metadata catalog. -/
structure Entity where
  id : EntityId
  kind : EntityKind
  name : String
  fullName : String
  deriving DecidableEq, Inhabited

namespace EntityId

/-- The JSON form of an identity is its text. -/
def encode (id : EntityId) : Json.Value :=
  .string id.text

/-- Decode an identity from its text. -/
def decode : Json.Decoder EntityId := fun source value =>
  (Json.Decoder.string source value).map EntityId.mk

end EntityId

namespace EntityReference

/-- The reference to an entity of a kind by its identity. -/
def ofKind (id : EntityId) (kind : EntityKind) : EntityReference :=
  ⟨id, kind.name⟩

/-- The JSON form of a reference. -/
def encode (reference : EntityReference) : Json.Value :=
  .object [("id", reference.id.encode), ("type", .string reference.type)]

/-- Decode a reference. -/
def decode : Json.Decoder EntityReference :=
  (Json.Fields.build EntityReference.mk
    |>.field (.required "id" EntityId.decode)
    |>.field (.required "type" .string)).decode "struct EntityReference"

end EntityReference

namespace Entity

/-- The reference to an entity. -/
def reference (entity : Entity) : EntityReference :=
  .ofKind entity.id entity.kind

/-- The JSON form of an entity. -/
def encode (entity : Entity) : Json.Value :=
  .object
    [("id", entity.id.encode), ("kind", entity.kind.encode), ("name", .string entity.name),
      ("fullyQualifiedName", .string entity.fullName)]

/-- Decode an entity. -/
def decode : Json.Decoder Entity :=
  (Json.Fields.build Entity.mk
    |>.field (.required "id" EntityId.decode)
    |>.field (.required "kind" EntityKind.decode)
    |>.field (.required "name" .string)
    |>.field (.required "fullyQualifiedName" .string)).decode "struct Entity"

end Entity
end CatalogIngest
