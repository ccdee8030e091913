import CatalogIngest.Json.Decoder

/-!
# Decoding records

A record is written as an object or as an array of its fields in order. From an object, every field
takes the member of its name; the member with the least name among those that do not decode is
reported, and only if there is none the first field that lacks its member. From an array, fields
take items from left to right; a missing item is reported where the field has no default, and left
over items are an error. Members that belong to no field are ignored.
-/

namespace CatalogIngest
namespace Json

/-- What is wrong with the members of a record. -/
inductive MemberProblem
  | fault (name : String) (error : DecodeError)
  | missing (field : String)

namespace MemberProblem

/-- The problem to report of an earlier and a later field: a fault before a missing member, the
lesser member name among faults, the earlier field among missing members. -/
def first : MemberProblem → MemberProblem → MemberProblem
  | .fault left leftError, .fault right rightError =>
      if right < left then .fault right rightError else .fault left leftError
  | .fault left leftError, .missing _ => .fault left leftError
  | .missing _, .fault right rightError => .fault right rightError
  | .missing left, .missing _ => .missing left

/-- The error that reports a problem. -/
def error : MemberProblem → DecodeError
  | .fault _ error => error
  | .missing field => .missingField field

end MemberProblem

/-- What is wrong with the items of a record: an item that does not decode, or too few items. -/
inductive ItemProblem
  | fault (error : DecodeError)
  | short (length : Nat)

/-- A field of a record. -/
structure Field (α : Type) where
  name : String
  aliases : List String
  decode : Decoder α
  /-- The value when no member has the field's name. -/
  absent : Option α
  /-- The value when there is no item left for the field. -/
  short : Option α

namespace Field

variable {α : Type}

/-- A field that must be present. -/
def required (name : String) (decode : Decoder α) : Field α :=
  ⟨name, [], decode, none, none⟩

/-- A field that may be null or lack its member, but not its item. -/
def optional (name : String) (decode : Decoder α) : Field (Option α) :=
  ⟨name, [], decode.nullable, some none, none⟩

/-- A field with a default value. -/
def defaulted (name : String) (value : α) (decode : Decoder α) : Field α :=
  ⟨name, [], decode, some value, some value⟩

/-- A field that may be null and is null by default. -/
def nullable (name : String) (decode : Decoder α) : Field (Option α) :=
  defaulted name none decode.nullable

/-- A field that is also known by another name. -/
def orCalled (field : Field α) (other : String) : Field α :=
  { field with aliases := other :: field.aliases }

/-- Whether a member name belongs to a field. -/
def owns (field : Field α) (name : String) : Bool :=
  name = field.name || field.aliases.contains name

/-- The value of a field from the members of an object. -/
def ofMembers (field : Field α) (source : Source) (members : List (String × Value)) :
    Except MemberProblem α :=
  match members.filter fun member => field.owns member.1 with
  | [] =>
      match field.absent with
      | some value => .ok value
      | none => .error (.missing field.name)
  | [(name, value)] => (field.decode source value).mapError (.fault name)
  | (name, value) :: (later, _) :: _ =>
      match field.decode source value with
      | .error error => .error (.fault name error)
      | .ok _ => .error (.fault later (.duplicateField field.name))

/-- The value of a field from the items left, of which the first has a given position. -/
def ofItems (field : Field α) (source : Source) (position : Nat) :
    List Value → Except ItemProblem (α × List Value)
  | [] =>
      match field.short with
      | some value => .ok (value, [])
      | none => .error (.short position)
  | value :: values =>
      match field.decode source value with
      | .error error => .error (.fault error)
      | .ok item => .ok (item, values)

end Field

/-- The fields of a record, as a way to build its value. -/
structure Fields (α : Type) where
  size : Nat
  ofMembers : Source → List (String × Value) → Except MemberProblem α
  ofItems : Source → List Value → Except ItemProblem (α × List Value)

namespace Fields

variable {α β : Type}

/-- A record without fields yet. -/
def build (value : α) : Fields α :=
  ⟨0, fun _ _ => .ok value, fun _ values => .ok (value, values)⟩

/-- Add a field behind the others. -/
def field (fields : Fields (α → β)) (next : Field α) : Fields β where
  size := fields.size + 1
  ofMembers := fun source members =>
    match fields.ofMembers source members, next.ofMembers source members with
    | .ok make, .ok value => .ok (make value)
    | .error problem, .ok _ => .error problem
    | .ok _, .error problem => .error problem
    | .error earlier, .error later => .error (earlier.first later)
  ofItems := fun source values =>
    match fields.ofItems source values with
    | .error problem => .error problem
    | .ok (make, values) =>
        match next.ofItems source fields.size values with
        | .error problem => .error problem
        | .ok (value, values) => .ok (make value, values)

/-- A number of elements. -/
def elements (size : Nat) : String :=
  CatalogIngest.Number.decimal size ++ if size = 1 then " element" else " elements"

/-- Check that all items were taken. -/
def finish (subject : String) (source : Source) (size length : Nat) :
    Except ItemProblem (α × List Value) → Except DecodeError α
  | .error (.fault error) => .error error
  | .error (.short position) =>
      .error (.invalidLength position (subject ++ " with " ++ elements size))
  | .ok (value, []) => .ok value
  | .ok (_, _ :: _) =>
      match source with
      | .direct => .error (.invalidLength length "fewer elements in array")
      | .setAside => .error (.invalidLength length (elements size ++ " in sequence"))

/-- Decode a record that messages call by a given name. -/
def decode (subject : String) (fields : Fields α) : Decoder α
  | source, .object members => (fields.ofMembers source members).mapError (·.error)
  | source, .array values =>
      finish subject source fields.size values.length (fields.ofItems source values)
  | _, value => mismatch value subject

end Fields
end Json
end CatalogIngest
