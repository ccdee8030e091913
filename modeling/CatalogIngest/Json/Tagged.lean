import CatalogIngest.Json.Fields

/-!
# Variants chosen by a tag

A tagged datum is an object in which one member names the variant, the rest being the fields of that
variant; or an array whose first item names the variant. The tag is read first, wherever it stands.
-/

namespace CatalogIngest
namespace Json

/-- The variant that a tag names. A tag that was set aside may also be a position in the list of
variants. -/
def tagged {α : Type} (variants : List (String × α)) : Decoder α
  | _, .string name => Decoder.named variants name
  | .setAside, .number (.integer (.ofNat position)) =>
      match variants[position]? with
      | some variant => .ok variant.2
      | none =>
          .error (.invalidValue (.integer position)
            ("variant index 0 <= i < " ++ CatalogIngest.Number.decimal variants.length))
  | _, value => mismatch value "variant identifier"

/-- A variant without fields: members are ignored and items are refused. -/
def Decoder.bare {α : Type} (value : α) : Decoder α
  | _, .array (first :: later) =>
      .error (.invalidLength (first :: later).length (Fields.elements 0 ++ " in sequence"))
  | _, _ => .ok value

/-- Decode a tagged datum, given for each variant the decoder of what is left without the tag. -/
def Decoder.variants {α : Type} (type tag : String) (variants : List (String × Decoder α)) :
    Decoder α
  | source, .object members =>
      match members.lookup tag with
      | none => .error (.missingField tag)
      | some name =>
          match tagged variants source name with
          | .error error => .error error
          | .ok decode =>
              decode .setAside (.object (members.filter fun member => member.1 ≠ tag))
  | _, .array [] => .error (.missingField tag)
  | source, .array (name :: values) =>
      match tagged variants source name with
      | .error error => .error error
      | .ok decode => decode .setAside (.array values)
  | _, value => mismatch value ("internally tagged enum " ++ type)

end Json
end CatalogIngest
