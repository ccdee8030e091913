import CatalogIngest.Toml.Quoted
import CatalogIngest.Toml.Scalar
import CatalogIngest.Toml.Tree

/-!
# Reading TOML

A document is a row of lines, each blank, a comment, a key with its value, or a header. Values may
be nested up to 79 levels deep. The readers of values take fuel, of which a text needs no more than
twice its length and one.
-/

namespace CatalogIngest
namespace Toml

/-- The number of arrays and inline tables that may be nested in one another. -/
def levelLimit : Nat := 79

/-- A text without a comment at its front. -/
def dropComment (text : List Char) : List Char :=
  match text with
  | '#' :: rest => rest.dropWhile isPlain
  | text => text

/-- A text without blanks, comments and line ends at its front. A comment must reach the end of its
line. -/
def dropGaps (fuel : Nat) (text : List Char) : List Char :=
  match fuel with
  | 0 => text
  | fuel + 1 =>
      let rest := dropComment (dropBlanks text)
      match newline? rest with
      | some later => dropGaps fuel later
      | none => rest

/-- Whether a character may stand in a bare key. -/
def inBareKey (character : Char) : Bool :=
  Number.isDigit character || ('a' ≤ character && character ≤ 'z') ||
    ('A' ≤ character && character ≤ 'Z') || character = '-' || character = '_'

/-- Read one part of a key. -/
def keyPart? (text : List Char) : Option (String × List Char) :=
  match text with
  | '"' :: _ => lineString? text
  | '\'' :: _ => lineString? text
  | _ =>
      let key := text.takeWhile inBareKey
      if key.isEmpty then none else some (String.ofList key, text.dropWhile inBareKey)

/-- Read the parts of a dotted key, and drop blanks behind it. -/
def keyParts? (fuel : Nat) (text : List Char) : Option (List String × List Char) :=
  match fuel with
  | 0 => none
  | fuel + 1 => do
      let (part, rest) ← keyPart? (dropBlanks text)
      match dropBlanks rest with
      | '.' :: rest =>
          let (parts, rest) ← keyParts? fuel rest
          some (part :: parts, rest)
      | rest => some ([part], rest)

/-- Split a dotted key into the path and the last part. -/
def splitKey? (parts : List String) : Option (List String × String) :=
  parts.getLast?.map fun last => (parts.dropLast, last)

/-- Read a dotted key of at most 79 parts. -/
def key? (text : List Char) : Option ((List String × String) × List Char) := do
  let (parts, rest) ← keyParts? levelLimit text
  let key ← splitKey? parts
  return (key, rest)

mutual

/-- Read a value. -/
def value? (fuel levels : Nat) (text : List Char) : Option (Value × List Char) :=
  match fuel with
  | 0 => none
  | fuel + 1 =>
      match text with
      | '"' :: _ => (string? text).map fun found => (.string found.1, found.2)
      | '\'' :: _ => (string? text).map fun found => (.string found.1, found.2)
      | '[' :: rest =>
          match levels with
          | 0 => none
          | levels + 1 => (items? fuel levels rest).map fun found => (.array found.1, found.2)
      | '\x7b' :: rest =>
          match levels with
          | 0 => none
          | levels + 1 =>
              match dropBlanks rest with
              | '\x7d' :: rest => some (.table [], rest)
              | rest =>
                  (pairs? fuel levels [] rest).map fun found =>
                    (.table (membersToValues found.1), found.2)
      | _ => readScalar? text

/-- Read the items of an array after its opening or a comma. -/
def items? (fuel levels : Nat) (text : List Char) : Option (List Value × List Char) :=
  match fuel with
  | 0 => none
  | fuel + 1 =>
      match dropGaps (text.length + 1) text with
      | ']' :: rest => some ([], rest)
      | text => do
          let (item, rest) ← value? fuel levels text
          match dropGaps (rest.length + 1) rest with
          | ',' :: rest =>
              let (items, rest) ← items? fuel levels rest
              some (item :: items, rest)
          | ']' :: rest => some ([item], rest)
          | _ => none

/-- Read the members of an inline table after its opening or a comma. -/
def pairs? (fuel levels : Nat) (members : Members) (text : List Char) :
    Option (Members × List Char) :=
  match fuel with
  | 0 => none
  | fuel + 1 => do
      let ((path, key), rest) ← key? text
      let rest ← Text.afterStart? ['='] rest
      let (value, rest) ← value? fuel levels (dropBlanks rest)
      let members ← Members.insertDotted key value path members
      match dropBlanks rest with
      | ',' :: rest => pairs? fuel levels members rest
      | '\x7d' :: rest => some (members, rest)
      | _ => none

end

/-- Read what may end a line: blanks, a comment, and the line end or the end of the text. -/
def lineEnd? (text : List Char) : Option (List Char) :=
  match dropComment (dropBlanks text) with
  | [] => some []
  | rest => newline? rest

/-- Read a line that is not blank and not a comment. -/
def expression? (building : Building) (text : List Char) : Option (Building × List Char) :=
  match text with
  | '[' :: '[' :: rest => do
      let ((path, key), rest) ← key? rest
      let rest ← Text.afterStart? [']', ']'] rest
      let building ← building.openArrayTable path key
      return (building, rest)
  | '[' :: rest => do
      let ((path, key), rest) ← key? rest
      let rest ← Text.afterStart? [']'] rest
      let building ← building.openTable path key
      return (building, rest)
  | text => do
      let ((path, key), rest) ← key? text
      let rest ← Text.afterStart? ['='] rest
      let (value, rest) ← value? (2 * rest.length + 2) levelLimit (dropBlanks rest)
      let building ← building.addValue path key value
      return (building, rest)

/-- Read the lines of a document. -/
def lines? (fuel : Nat) (building : Building) (text : List Char) : Option Building :=
  match fuel, text with
  | _, [] => some building
  | 0, _ :: _ => none
  | fuel + 1, text =>
      match lineEnd? text with
      | some rest => lines? fuel building rest
      | none => do
          let (building, rest) ← expression? building (dropBlanks text)
          let rest ← lineEnd? rest
          lines? fuel building rest

/-- The members of the root table of a document. A byte order mark in front counts for nothing. -/
def read? (text : String) : Option (List (String × Value)) := do
  let body := match text.toList with
    | '\uFEFF' :: rest => rest
    | rest => rest
  let building ← lines? (body.length + 1) .start body
  let root ← building.finish
  return membersToValues root

end Toml
end CatalogIngest
