import CatalogIngest.Json.Token

/-!
# TOML strings

A basic string stands between double quotes and has escapes; a literal string stands between single
quotes and has none. With three quotes a string may span lines: a line end right after the opening
is dropped, a backslash at the end of a line joins lines, and up to two quotes may stand inside.
-/

namespace CatalogIngest
namespace Toml

/-- Whether a character may stand in a comment or a string as it is. -/
def isPlain (character : Char) : Bool :=
  character = '\t' || (32 ≤ character.toNat && character.toNat ≠ 127)

/-- Read a line end. -/
def newline? : List Char → Option (List Char)
  | '\n' :: rest => some rest
  | '\r' :: '\n' :: rest => some rest
  | _ => none

/-- The character of a code point, unless it is a surrogate or too large. -/
def scalarChar? (code : Nat) : Option Char :=
  if code < 0xD800 ∨ (0xDFFF < code ∧ code ≤ 0x10FFFF) then some (Char.ofNat code) else none

/-- Read the code point of exactly so many hexadecimal digits. -/
def hexCode? (places : Nat) (text : List Char) : Option (Char × List Char) := do
  let digits ← (text.take places).mapM Json.Token.hexValue?
  if digits.length = places then
    let character ← scalarChar? (digits.foldl (fun value digit => value * 16 + digit) 0)
    some (character, text.drop places)
  else none

/-- Read an escape after its backslash. -/
def escape? : List Char → Option (Char × List Char)
  | 'b' :: rest => some ('\x08', rest)
  | 't' :: rest => some ('\t', rest)
  | 'n' :: rest => some ('\n', rest)
  | 'f' :: rest => some ('\x0c', rest)
  | 'r' :: rest => some ('\r', rest)
  | '"' :: rest => some ('"', rest)
  | '\\' :: rest => some ('\\', rest)
  | 'u' :: rest => hexCode? 4 rest
  | 'U' :: rest => hexCode? 8 rest
  | _ => none

/-- Read a basic string on one line after its opening quote; the characters so far come latest
first. -/
def basic? (fuel : Nat) (found : List Char) (text : List Char) : Option (String × List Char) :=
  match fuel, text with
  | 0, _ => none
  | _, [] => none
  | fuel + 1, character :: rest =>
      if character = '"' then some (String.ofList found.reverse, rest)
      else if character = '\\' then do
        let (escaped, rest) ← escape? rest
        basic? fuel (escaped :: found) rest
      else if isPlain character then basic? fuel (character :: found) rest
      else none

/-- Read a literal string on one line after its opening quote. -/
def literal? (found : List Char) : List Char → Option (String × List Char)
  | [] => none
  | character :: rest =>
      if character = '\'' then some (String.ofList found.reverse, rest)
      else if isPlain character then literal? (character :: found) rest
      else none

/-- The number of quotes at the front of a text. -/
def quoteRun (quote : Char) (text : List Char) : Nat :=
  (text.takeWhile (· = quote)).length

/-- A text without blanks at its front. -/
def dropBlanks (text : List Char) : List Char :=
  text.dropWhile fun character => character = ' ' || character = '\t'

/-- A text without blanks and line ends at its front. -/
def dropLines (fuel : Nat) (text : List Char) : List Char :=
  match fuel with
  | 0 => text
  | fuel + 1 =>
      match newline? (dropBlanks text) with
      | some rest => dropLines fuel rest
      | none => dropBlanks text

/-- Drop blanks and line ends behind a backslash; there must be a line end before other text. -/
def joinLines? (text : List Char) : Option (List Char) :=
  (newline? (dropBlanks text)).map fun rest => dropLines (rest.length + 1) rest

/-- Read a string over several lines after its opening quotes. -/
def multiline? (quote : Char) (escapes : Bool) (fuel : Nat) (found : List Char)
    (text : List Char) : Option (String × List Char) :=
  match fuel, text with
  | 0, _ => none
  | _, [] => none
  | fuel + 1, character :: rest =>
      if character = quote then
        let run := min 5 (quoteRun quote text)
        if run < 3 then multiline? quote escapes fuel (quote :: found) rest
        else
          some (String.ofList (List.replicate (run - 3) quote ++ found).reverse, text.drop run)
      else if escapes ∧ character = '\\' then
        match joinLines? rest with
        | some rest => multiline? quote escapes fuel found rest
        | none => do
            let (escaped, rest) ← escape? rest
            multiline? quote escapes fuel (escaped :: found) rest
      else
        match newline? text with
        | some rest => multiline? quote escapes fuel ('\n' :: found) rest
        | none =>
            if isPlain character then multiline? quote escapes fuel (character :: found) rest
            else none

/-- A text without a line end at its front. -/
def dropNewline (text : List Char) : List Char :=
  (newline? text).getD text

/-- Read a string on one line. -/
def lineString? : List Char → Option (String × List Char)
  | '"' :: rest => basic? (rest.length + 1) [] rest
  | '\'' :: rest => literal? [] rest
  | _ => none

/-- Read a string. -/
def string? (text : List Char) : Option (String × List Char) :=
  match text with
  | '"' :: '"' :: '"' :: rest =>
      multiline? '"' true (rest.length + 1) [] (dropNewline rest)
  | '\'' :: '\'' :: '\'' :: rest =>
      multiline? '\'' false (rest.length + 1) [] (dropNewline rest)
  | text => lineString? text

/-- A character as it stands in a basic string. -/
def escapeChar (character : Char) : List Char :=
  if character = '"' then ['\\', '"']
  else if character = '\\' then ['\\', '\\']
  else if character.toNat < 32 ∨ character.toNat = 127 then
    ['\\', 'u', '0', '0', Nat.digitChar (character.toNat / 16),
      Nat.digitChar (character.toNat % 16)]
  else [character]

/-- A text as a basic string. -/
def quoted (text : String) : String :=
  String.ofList ('"' :: text.toList.flatMap escapeChar ++ ['"'])

end Toml
end CatalogIngest
