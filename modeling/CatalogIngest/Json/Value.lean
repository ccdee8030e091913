import CatalogIngest.Number.Shortest

/-!
# JSON values

Values as programs see them: numbers are either whole or floating-point, and the members of an
object are kept as a list of pairs. Values read from a text list their members in key order.
-/

namespace CatalogIngest
namespace Json

/-- A number is whole or floating-point, never both. -/
inductive Number
  | integer (value : Int)
  | float (value : Float)
  deriving Inhabited

/-- The decimal text of a number. -/
def Number.text : Number → String
  | .integer value => CatalogIngest.Number.signedDecimal value
  | .float value => CatalogIngest.Number.floatText value

/-- A JSON value. -/
inductive Value
  | null
  | boolean (value : Bool)
  | number (value : Number)
  | string (value : String)
  | array (items : List Value)
  | object (members : List (String × Value))
  deriving Inhabited

namespace Value

/-- A whole number as a value. -/
def ofInt (value : Int) : Value :=
  .number (.integer value)

/-- A natural number as a value. -/
def ofNat (value : Nat) : Value :=
  ofInt value

/-- A list of texts as a value. -/
def ofStrings (texts : List String) : Value :=
  .array (texts.map .string)

/-- An absent value is null. -/
def ofOption {α : Type} (encode : α → Value) : Option α → Value
  | none => .null
  | some value => encode value

/-- The member of an object under a name. -/
def member? (name : String) : Value → Option Value
  | .object members => members.lookup name
  | _ => none

/-- The text of a string value. -/
def string? : Value → Option String
  | .string text => some text
  | _ => none

mutual

/-- The number of containers nested in one another. -/
def depth : Value → Nat
  | .array items => depthOfItems items + 1
  | .object members => depthOfMembers members + 1
  | _ => 0

/-- The greatest depth among the items of an array. -/
def depthOfItems : List Value → Nat
  | [] => 0
  | item :: items => max item.depth (depthOfItems items)

/-- The greatest depth among the members of an object. -/
def depthOfMembers : List (String × Value) → Nat
  | [] => 0
  | (_, value) :: members => max value.depth (depthOfMembers members)

end

end Value
end Json
end CatalogIngest
