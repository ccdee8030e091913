/-!
# TOML values
-/

namespace CatalogIngest
namespace Toml

/-- A TOML value. Dates and times keep their text. -/
inductive Value
  | string (text : String)
  | integer (value : Int)
  | float (value : Float)
  | boolean (value : Bool)
  | dateTime (text : String)
  | array (items : List Value)
  | table (members : List (String × Value))
  deriving Inhabited

end Toml
end CatalogIngest
