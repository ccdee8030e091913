import CatalogIngest.Json.Decoder
import CatalogIngest.Text.Split

/-!
# Entity links

A link is a text that addresses a table, or one of its columns, on behalf of a test case.
-/

namespace CatalogIngest

/-- The address of a table or of one of its columns. -/
structure EntityLink where
  table : String
  column : Option String
  deriving DecidableEq, Inhabited

namespace EntityLink

/-- The text before the table name. -/
def opening : List Char := "<#E::table::".toList

/-- The text between the table name and the column name. -/
def separator : List Char := "::columns::".toList

/-- The characters of a link. -/
def displayChars (link : EntityLink) : List Char :=
  match link.column with
  | none => opening ++ link.table.toList ++ ['>']
  | some column => opening ++ link.table.toList ++ separator ++ column.toList ++ ['>']

/-- The text of a link. -/
def display (link : EntityLink) : String :=
  String.ofList link.displayChars

/-- The link between the opening and the closing bracket: it is not empty, and where the separator
occurs, the texts before and after its first occurrence are not empty either. -/
def ofBody? (body : List Char) : Option EntityLink :=
  if body.isEmpty then none
  else
    match Text.splitAt? separator body with
    | none => some ⟨String.ofList body, none⟩
    | some (table, column) =>
        if table.isEmpty || column.isEmpty then none
        else some ⟨String.ofList table, some (String.ofList column)⟩

/-- The link that a text addresses. -/
def read? (text : String) : Option EntityLink :=
  match Text.afterStart? opening text.toList with
  | none => none
  | some rest =>
      match Text.beforeEnd? ['>'] rest with
      | none => none
      | some body => ofBody? body

/-- The JSON form of a link is its text. -/
def encode (link : EntityLink) : Json.Value :=
  .string link.display

/-- Decode a link from its text. -/
def decode : Json.Decoder EntityLink := fun source value =>
  match Json.Decoder.string source value with
  | .error error => .error error
  | .ok text =>
      match read? text with
      | some link => .ok link
      | none => .error (.invalidLink text)

end EntityLink
end CatalogIngest
