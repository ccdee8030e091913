import CatalogIngest.Json.Token
import CatalogIngest.SortedMap

/-!
# JSON documents

A document is the tree that a text spells out, before any decision about its content: members stay
in textual order with their duplicates, and strings or numerals without a value are kept as such.
A document becomes a value when all its strings and numerals have values and it is not nested too
deeply; then the last of several members with one name counts.
-/

namespace CatalogIngest
namespace Json

/-- The tree of a JSON text. -/
inductive Document
  | null
  | boolean (value : Bool)
  | number (value : Option Number)
  | string (text : Option String)
  | array (items : List Document)
  | object (members : List (Option String × Document))
  deriving Inhabited

namespace Document

/-- An unfinished container: its parts so far, latest first. -/
inductive Frame
  | array (items : List Document)
  | object (members : List (Option String × Document)) (name : Option String)

/-- What the tokens so far lead to expect. -/
inductive Place
  | value (stack : List Frame)
  | firstItem (stack : List Frame)
  | firstName (stack : List Frame)
  | name (members : List (Option String × Document)) (stack : List Frame)
  | colon (members : List (Option String × Document)) (name : Option String)
      (stack : List Frame)
  | afterValue (document : Document) (stack : List Frame)

/-- Begin a value where one may stand. -/
def beginValue (stack : List Frame) : Token → Option Place
  | .openArray => some (.firstItem stack)
  | .openObject => some (.firstName stack)
  | .null => some (.afterValue .null stack)
  | .boolean value => some (.afterValue (.boolean value) stack)
  | .number value => some (.afterValue (.number value) stack)
  | .string text => some (.afterValue (.string text) stack)
  | _ => none

/-- Advance by one token. -/
def advance : Place → Token → Option Place
  | .value stack, token => beginValue stack token
  | .firstItem stack, .closeArray => some (.afterValue (.array []) stack)
  | .firstItem stack, token => beginValue (.array [] :: stack) token
  | .firstName stack, .closeObject => some (.afterValue (.object []) stack)
  | .firstName stack, .string name => some (.colon [] name stack)
  | .name members stack, .string name => some (.colon members name stack)
  | .colon members name stack, .colon => some (.value (.object members name :: stack))
  | .afterValue document (.array items :: stack), .comma =>
      some (.value (.array (document :: items) :: stack))
  | .afterValue document (.array items :: stack), .closeArray =>
      some (.afterValue (.array (document :: items).reverse) stack)
  | .afterValue document (.object members name :: stack), .comma =>
      some (.name ((name, document) :: members) stack)
  | .afterValue document (.object members name :: stack), .closeObject =>
      some (.afterValue (.object ((name, document) :: members).reverse) stack)
  | _, _ => none

/-- Advance by all tokens in turn. -/
def advanceAll (place : Place) : List Token → Option Place
  | [] => some place
  | token :: tokens =>
      match advance place token with
      | some place => advanceAll place tokens
      | none => none

/-- The document that a text spells out. -/
def read? (text : String) : Option Document :=
  match Token.readAll text.toList with
  | none => none
  | some tokens =>
      match advanceAll (.value []) tokens with
      | some (.afterValue document []) => some document
      | _ => none

/-- The number of nested containers that a value may have. -/
def depthLimit : Nat := 127

mutual

/-- The value of a document within a number of levels. -/
def toValue? (levels : Nat) : Document → Option Value
  | .null => some .null
  | .boolean value => some (.boolean value)
  | .number value => value.map .number
  | .string text => text.map .string
  | .array items =>
      match levels with
      | 0 => none
      | levels + 1 => (itemValues? levels items).map .array
  | .object members =>
      match levels with
      | 0 => none
      | levels + 1 =>
          (memberValues? levels members).map fun members =>
            .object (SortedMap.ofList members).entries

/-- The values of the items of an array. -/
def itemValues? (levels : Nat) : List Document → Option (List Value)
  | [] => some []
  | item :: items =>
      match item.toValue? levels, itemValues? levels items with
      | some value, some values => some (value :: values)
      | _, _ => none

/-- The names and values of the members of an object, in textual order. -/
def memberValues? (levels : Nat) :
    List (Option String × Document) → Option (List (String × Value))
  | [] => some []
  | (name, document) :: members =>
      match name, document.toValue? levels, memberValues? levels members with
      | some name, some value, some values => some ((name, value) :: values)
      | _, _, _ => none

end

/-- The value of a whole document. -/
def value? (document : Document) : Option Value :=
  document.toValue? depthLimit

/-- The parts of a document for the fields of a record that all have defaults: the members of those
names, none of which may occur twice, or the items in their order, of which there may be fewer.
Other members count for nothing, but their names must have a text. -/
def fieldParts? (names : List String) : Document → Option (List (Option Document))
  | .object members =>
      if members.all fun member => member.1.isSome then
        names.mapM fun name =>
          match members.filter fun member => member.1 = some name with
          | [] => some none
          | [(_, part)] => some (some part)
          | _ => none
      else none
  | .array items =>
      if items.length ≤ names.length then
        some (items.map some ++ List.replicate (names.length - items.length) none)
      else none
  | _ => none

/-- The text of a string. -/
def toText? : Document → Option String
  | .string text => text
  | _ => none

/-- The text of a string, or nothing for null. -/
def toNullableText? : Document → Option (Option String)
  | .null => some none
  | .string text => text.map some
  | _ => none

/-- The texts of an array of strings. -/
def toTexts? : Document → Option (List String)
  | .array items => items.mapM toText?
  | _ => none

/-- The values of an object by name, each within a number of levels. -/
def toValueMap? (levels : Nat) : Document → Option (SortedMap Value)
  | .object members => (memberValues? levels members).map SortedMap.ofList
  | _ => none

/-- The values of an array, each within a number of levels. -/
def toValues? (levels : Nat) : Document → Option (List Value)
  | .array items => itemValues? levels items
  | _ => none

/-- A part of a record, or its default where the part is absent. -/
def partOr? {α : Type} (default : α) (read : Document → Option α) (part : Option Document) :
    Option α :=
  match part with
  | none => some default
  | some document => read document

end Document

/-- The value that a text spells out. -/
def Value.read? (text : String) : Option Value :=
  (Document.read? text).bind Document.value?

end Json
end CatalogIngest
