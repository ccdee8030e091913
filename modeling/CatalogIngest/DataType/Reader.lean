import CatalogIngest.DataType
import CatalogIngest.Text.Blank
import CatalogIngest.Text.Casing
import CatalogIngest.Text.Split

/-!
# Reading warehouse type texts

A type text is trimmed and lower-cased first. An ending `[]` makes an array of the type before it.
Otherwise the text is a type name, which may be followed by arguments in parentheses or by an element
type in angle brackets; the name has small letters, digits, underscores and spaces. Texts of any
other form, and names that are not known, read as the unknown type.
-/

namespace CatalogIngest
namespace DataType

/-- The parts of a type text that is not an array by its ending. -/
structure Parts where
  base : List Char
  arguments : List (List Char)
  element : Option (List Char)
  deriving DecidableEq

/-- Whether a character may begin a type name. -/
def beginsName (character : Char) : Bool :=
  ('a' ≤ character && character ≤ 'z') || character = '_'

/-- Whether a character may stand inside a type name. -/
def continuesName (character : Char) : Bool :=
  beginsName character || ('0' ≤ character && character ≤ '9') || character = ' '

/-- Whether a text has the form of a type name. -/
def isName : List Char → Bool
  | [] => false
  | first :: rest => beginsName first && rest.all continuesName

/-- The non-blank pieces between commas, trimmed. -/
def argumentList (text : List Char) : List (List Char) :=
  ((Text.splitOn ',' text).map Text.trim).filter fun piece => !piece.isEmpty

/-- Whether a character opens the arguments or the element of a type. -/
def opensArguments (character : Char) : Bool :=
  character = '(' || character = '<'

/-- Cut a trimmed, lower-case type text into its parts. -/
def split? (text : List Char) : Option Parts :=
  let front := text.takeWhile fun character => !opensArguments character
  let base := Text.trimEnd front
  match text.dropWhile fun character => !opensArguments character with
  | [] => if isName text then some ⟨Text.trim text, [], none⟩ else none
  | '(' :: rest =>
      match Text.beforeEnd? [')'] rest with
      | some inner =>
          if isName base && !inner.contains ')' then
            some ⟨Text.trim base, argumentList inner, none⟩
          else none
      | none => none
  | _ :: rest =>
      match Text.beforeEnd? ['>'] rest with
      | some inner =>
          if isName base && !inner.contains '\n' then
            some ⟨Text.trim base, [], some (Text.trim inner)⟩
          else none
      | none => none

theorem length_of_split?_eq_some {text element : List Char} {parts : Parts}
    (cut : split? text = some parts) (inner : parts.element = some element) :
    element.length < text.length := by
  have whole : (text.takeWhile fun character => !opensArguments character) ++
      (text.dropWhile fun character => !opensArguments character) = text :=
    List.takeWhile_append_dropWhile
  simp only [split?] at cut
  split at cut
  · split at cut <;> simp at cut
    subst cut
    simp at inner
  · split at cut
    · split at cut <;> simp at cut
      subst cut
      simp at inner
    · simp at cut
  · next opening rest _ found =>
    split at cut
    · next between ended =>
      split at cut <;> simp at cut
      subst cut
      simp only [Option.some.injEq] at inner
      subst inner
      have ending := Text.beforeEnd?_eq_some.1 ended
      have bound := Text.length_trim_le between
      rw [found, ending] at whole
      have total := congrArg List.length whole
      simp at total
      omega
    · simp at cut

/-- A word as wide as a precision, if the text is one. -/
def readWord16? (text : List Char) : Option UInt16 :=
  (Number.readAtMost? 65535 text).map UInt16.ofNat

/-- A word as wide as a length, if the text is one. -/
def readWord32? (text : List Char) : Option UInt32 :=
  (Number.readAtMost? 4294967295 text).map UInt32.ofNat

/-- The first argument as a length. -/
def lengthArgument (arguments : List (List Char)) : Option UInt32 :=
  arguments.head?.bind readWord32?

/-- How a type name makes a type. -/
inductive Family
  | plain (type : DataType)
  | decimal
  | varchar
  | char
  | array
  deriving DecidableEq

/-- The spellings of each type. -/
def spellings : List (Family × List String) :=
  [(.plain .boolean, ["bool", "boolean"]),
    (.plain .smallint, ["smallint", "tinyint", "int2", "byteint"]),
    (.plain .int, ["int", "integer", "int4", "mediumint"]),
    (.plain .bigint, ["bigint", "int8", "int64", "long"]),
    (.plain .float,
      ["float", "float4", "float8", "float64", "double", "double precision", "real"]),
    (.decimal, ["decimal", "numeric", "number", "bignumeric"]),
    (.varchar, ["varchar", "character varying", "nvarchar", "string"]),
    (.char, ["char", "character", "nchar", "bpchar"]),
    (.plain .text, ["text", "clob"]),
    (.plain .date, ["date"]),
    (.plain .time, ["time", "time without time zone", "time with time zone"]),
    (.plain .timestamp,
      ["timestamp", "datetime", "timestamp_ntz", "timestamp_ltz", "timestamp_tz", "timestamptz",
        "timestamp without time zone", "timestamp with time zone"]),
    (.plain .binary, ["binary", "varbinary", "bytea", "bytes", "blob"]),
    (.plain .json, ["json", "jsonb", "variant", "object", "super"]),
    (.plain .struct, ["struct", "record"]),
    (.array, ["array"])]

/-- The family that a type name belongs to. -/
def family? (base : List Char) : Option Family :=
  (spellings.find? fun entry => entry.2.any fun name => name.toList == base).map (·.1)

/-- Read a trimmed, lower-case type text. -/
def readNormal (text : List Char) : DataType :=
  match _ended : Text.beforeEnd? ['[', ']'] text with
  | some inner => .array (readNormal (Text.trim inner))
  | none =>
      match _cut : split? text with
      | none => .unknown
      | some parts =>
          match family? parts.base with
          | none => .unknown
          | some (.plain type) => type
          | some .decimal =>
              .decimal (parts.arguments.head?.bind readWord16?)
                ((parts.arguments[1]?).bind readWord16?)
          | some .varchar => .varchar (lengthArgument parts.arguments)
          | some .char => .char (lengthArgument parts.arguments)
          | some .array =>
              match _inside : parts.element with
              | none => .array .unknown
              | some element => .array (readNormal element)
termination_by text.length
decreasing_by
  · have ending := Text.beforeEnd?_eq_some.1 _ended
    have bound := Text.length_trim_le inner
    rw [ending]
    simp
    omega
  · exact length_of_split?_eq_some _cut _inside

/-- A type text without blanks at its ends and without capital letters. -/
def normalise (text : String) : List Char :=
  Text.lower (Text.trim text.toList)

/-- The column type that a warehouse type text names. -/
def read (text : String) : DataType :=
  readNormal (normalise text)

end DataType
end CatalogIngest
