import CatalogIngest.Json.Value

/-!
# Writing JSON

A value is written either without any blanks or spread over lines with two spaces for each level.
Members are written in the order in which they are listed.
-/

namespace CatalogIngest
namespace Json

/-- A lower-case hexadecimal digit. -/
def hexDigit (digit : Nat) : Char :=
  Nat.digitChar digit

/-- A character as it stands inside a JSON string. -/
def escapeChar (character : Char) : List Char :=
  if character = '"' then ['\\', '"']
  else if character = '\\' then ['\\', '\\']
  else if character = '\n' then ['\\', 'n']
  else if character = '\r' then ['\\', 'r']
  else if character = '\t' then ['\\', 't']
  else if character.toNat = 8 then ['\\', 'b']
  else if character.toNat = 12 then ['\\', 'f']
  else if character.toNat < 32 then
    ['\\', 'u', '0', '0', hexDigit (character.toNat / 16), hexDigit (character.toNat % 16)]
  else [character]

/-- A text as a JSON string. -/
def quoted (text : String) : List Char :=
  '"' :: text.toList.flatMap escapeChar ++ ['"']

/-- Pieces with a separator between each two. -/
def separated (separator : List Char) : List (List Char) → List Char
  | [] => []
  | [piece] => piece
  | piece :: pieces => piece ++ separator ++ separated separator pieces

namespace Value

mutual

/-- A value without blanks. -/
def compactChars : Value → List Char
  | .null => "null".toList
  | .boolean true => "true".toList
  | .boolean false => "false".toList
  | .number value => value.text.toList
  | .string text => quoted text
  | .array items => '[' :: separated [','] (compactItems items) ++ [']']
  | .object members => '\x7b' :: separated [','] (compactMembers members) ++ ['\x7d']

/-- Each item of an array without blanks. -/
def compactItems : List Value → List (List Char)
  | [] => []
  | item :: items => item.compactChars :: compactItems items

/-- Each member of an object without blanks. -/
def compactMembers : List (String × Value) → List (List Char)
  | [] => []
  | (name, value) :: members =>
      (quoted name ++ ':' :: value.compactChars) :: compactMembers members

end

/-- The text of a value without blanks. -/
def compact (value : Value) : String :=
  String.ofList value.compactChars

/-- The start of a line at a level. -/
def lineStart (level : Nat) : List Char :=
  '\n' :: List.replicate (2 * level) ' '

/-- Pieces between brackets, each on a line of its own one level deeper. -/
def block (level : Nat) (opening closing : Char) (pieces : List (List Char)) : List Char :=
  match pieces with
  | [] => [opening, closing]
  | _ =>
      opening :: lineStart (level + 1) ++ separated (',' :: lineStart (level + 1)) pieces ++
        lineStart level ++ [closing]

mutual

/-- A value spread over lines, for a given level. -/
def prettyChars (level : Nat) : Value → List Char
  | .null => "null".toList
  | .boolean true => "true".toList
  | .boolean false => "false".toList
  | .number value => value.text.toList
  | .string text => quoted text
  | .array items => block level '[' ']' (prettyItems (level + 1) items)
  | .object members => block level '\x7b' '\x7d' (prettyMembers (level + 1) members)

/-- Each item of an array spread over lines. -/
def prettyItems (level : Nat) : List Value → List (List Char)
  | [] => []
  | item :: items => item.prettyChars level :: prettyItems level items

/-- Each member of an object spread over lines. -/
def prettyMembers (level : Nat) : List (String × Value) → List (List Char)
  | [] => []
  | (name, value) :: members =>
      (quoted name ++ [':', ' '] ++ value.prettyChars level) :: prettyMembers level members

end

/-- The text of a value spread over lines. -/
def pretty (value : Value) : String :=
  String.ofList (value.prettyChars 0)

end Value
end Json
end CatalogIngest
