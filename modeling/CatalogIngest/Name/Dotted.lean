import CatalogIngest.Text.Split

/-!
# Dotted names

A fully qualified name lists its parts from the outside in, with dots between them. A part that
contains a dot stands between double quotes, unless it already begins and ends with one.
-/

namespace CatalogIngest
namespace Name

/-- Whether a text begins and ends with a double quote. -/
def isQuoted (part : List Char) : Bool :=
  part.head? = some '"' && part.getLast? = some '"'

/-- A part as it stands in a dotted name. -/
def quoteChars (part : List Char) : List Char :=
  if part.contains '.' && !isQuoted part then '"' :: part ++ ['"'] else part

/-- Parts with dots between them, each quoted where needed. -/
def joinChars : List (List Char) → List Char
  | [] => []
  | [part] => quoteChars part
  | part :: parts => quoteChars part ++ '.' :: joinChars parts

/-- The text after the last dot outside quotes, given whether a quote is open and the characters of
the current part, latest first. -/
def lastPieceFrom (inside : Bool) (piece : List Char) : List Char → List Char
  | [] => piece.reverse
  | character :: rest =>
      if character = '"' then lastPieceFrom (!inside) (character :: piece) rest
      else if character = '.' ∧ inside = false then lastPieceFrom inside [] rest
      else lastPieceFrom inside (character :: piece) rest

/-- Remove double quotes at both ends. -/
def unquoteChars (text : List Char) : List Char :=
  ((text.dropWhile (· = '"')).reverse.dropWhile (· = '"')).reverse

/-- The last part of a dotted name, without quotes around it. -/
def lastPartChars (name : List Char) : List Char :=
  unquoteChars (lastPieceFrom false [] name)

/-- A part as it stands in a dotted name. -/
def quote (part : String) : String :=
  String.ofList (quoteChars part.toList)

/-- The dotted name of a list of parts. -/
def join (parts : List String) : String :=
  String.ofList (joinChars (parts.map String.toList))

/-- The last part of a dotted name. -/
def lastPart (name : String) : String :=
  String.ofList (lastPartChars name.toList)

@[simp] theorem joinChars_nil : joinChars [] = [] := rfl

@[simp] theorem joinChars_singleton (part : List Char) : joinChars [part] = quoteChars part := rfl

@[simp] theorem joinChars_cons_cons (first second : List Char) (parts : List (List Char)) :
    joinChars (first :: second :: parts) =
      quoteChars first ++ '.' :: joinChars (second :: parts) := rfl

end Name
end CatalogIngest
