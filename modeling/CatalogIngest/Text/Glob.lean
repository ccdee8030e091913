import CatalogIngest.Text.Split

/-!
# Glob patterns

In a pattern a star stands for any run of characters, possibly empty. The pieces between stars are
found from left to right, the first at the start of the text and the last at its end.
-/

namespace CatalogIngest
namespace Text

/-- Whether pieces occur in a text in order, without overlap, the last one at its end. -/
def piecesOccur : List (List Char) → List Char → Bool
  | [], _ => true
  | [last], text => (beforeEnd? last text).isSome
  | piece :: pieces, text =>
      match splitAt? piece text with
      | some parts => piecesOccur pieces parts.2
      | none => false

/-- Whether a text matches a pattern with stars. -/
def globMatches (pattern text : List Char) : Bool :=
  match splitOn '*' pattern with
  | [] => false
  | [whole] => whole = text
  | first :: pieces =>
      match afterStart? first text with
      | some rest => piecesOccur pieces rest
      | none => false

end Text
end CatalogIngest
