import CatalogIngest.SortedMap
import CatalogIngest.Text.Alphanumeric
import CatalogIngest.Text.Blank

/-!
# Environment files

A file of variables has lines of a key, an equals sign and a value; the word `export` may stand in
front. Values may be quoted, a quoted value may span lines, and a dollar sign inserts an earlier
variable. Reading stops at the first bad line; variables that are set already keep their values.
-/

namespace CatalogIngest
namespace Project
namespace Environment

/-- Where the scan for the end of a line stands. -/
inductive Scan
  | plain
  | gap
  | escape
  | weak
  | weakEscape
  | strong
  | strongEscape
  deriving DecidableEq

/-- The scan behind one more character; nothing when a comment starts. -/
def Scan.next (scan : Scan) (character : Char) : Option Scan :=
  match scan with
  | .gap =>
      if character = '#' then none
      else if character = '\\' then some .escape
      else if character = '"' then some .weak
      else if character = '\'' then some .strong
      else some .plain
  | .escape => some .plain
  | .plain =>
      if Text.isBlank character ∧ character ≠ '\n' ∧ character ≠ '\r' then some .gap
      else if character = '\\' then some .escape
      else if character = '"' then some .weak
      else if character = '\'' then some .strong
      else some .plain
  | .weak =>
      if character = '\\' then some .weakEscape
      else if character = '"' then some .plain
      else some .weak
  | .weakEscape => some .weak
  | .strong =>
      if character = '\\' then some .strongEscape
      else if character = '\'' then some .plain
      else some .strong
  | .strongEscape => some .strong

/-- Scan a row of text. On a comment, the text before it; else the scan at the end. -/
def scanRow (scan : Scan) (front : List Char) : List Char → List Char ⊕ Scan
  | [] => .inr scan
  | character :: rest =>
      match scan.next character with
      | none => .inl front.reverse
      | some scan => scanRow scan (character :: front) rest

/-- Split a text behind its first line feed. -/
def takeRow (text : List Char) : List Char × List Char :=
  match text.dropWhile (· ≠ '\n') with
  | [] => (text, [])
  | _ :: rest => (text.takeWhile (· ≠ '\n') ++ ['\n'], rest)

/-- A text without a line end at its end. -/
def dropLineEnd (text : List Char) : List Char :=
  match text.reverse with
  | '\n' :: '\r' :: front => front.reverse
  | '\n' :: front => front.reverse
  | _ => text

/-- A line, or a text that ends in the middle of one. -/
inductive Line
  | whole (text : List Char)
  | unfinished

/-- The logical lines of a text: a line goes on while a quote, an escape or a gap is open. -/
def logicalLines (fuel : Nat) (scan : Scan) (front text : List Char) : List Line :=
  match fuel, text with
  | 0, _ => []
  | _, [] => if scan = .plain then [] else [.unfinished]
  | fuel + 1, text =>
      let (row, rest) := takeRow text
      if (Text.trimStart (front ++ row)).head? = some '#' then
        .whole [] :: logicalLines fuel .plain [] rest
      else
        match scanRow scan [] row with
        | .inl before => .whole (front ++ before) :: logicalLines fuel .plain [] rest
        | .inr .plain => .whole (dropLineEnd (front ++ row)) :: logicalLines fuel .plain [] rest
        | .inr scan => logicalLines fuel scan (front ++ row) rest

/-- How a variable is inserted at present: not at all, by its bare name, or between braces. -/
inductive Insertion
  | inactive
  | bare
  | braced
  deriving DecidableEq

/-- A part of a value: a character, or the value of a variable. -/
inductive Piece
  | character (character : Char)
  | variable (name : String)
  deriving DecidableEq

/-- What is known of a value while it is read; texts come latest character first. -/
structure ValueState where
  output : List Piece
  strong : Bool
  weak : Bool
  escaped : Bool
  ending : Bool
  insertion : Insertion
  name : List Char

/-- Append a character to the value. -/
def ValueState.push (state : ValueState) (character : Char) : ValueState :=
  { state with output := .character character :: state.output }

/-- Append the variable whose name was gathered. -/
def ValueState.insert (state : ValueState) : ValueState :=
  { state with
    output := .variable (String.ofList state.name.reverse) :: state.output
    name := [] }

/-- Whether a character may be part of the bare name of an inserted variable. -/
def inVariableName (character : Char) : Bool :=
  Text.isAlphanumeric character

/-- Take in one more character. -/
def ValueState.step (state : ValueState) (character : Char) : Option ValueState :=
  if state.ending then
    if character = ' ' ∨ character = '\t' then some state else none
  else if state.escaped then
    if character = 'n' then some { state.push '\n' with escaped := false }
    else if character = '\\' ∨ character = '\'' ∨ character = '"' ∨ character = '$' ∨
        character = ' ' then some { state.push character with escaped := false }
    else none
  else if state.strong then
    if character = '\'' then some { state with strong := false } else some (state.push character)
  else if state.insertion ≠ .inactive ∧ inVariableName character then
    some { state with name := character :: state.name }
  else if state.insertion = .bare then
    if character = '\x7b' ∧ state.name = [] then some { state with insertion := .braced }
    else if character = '$' then some { state.insert with insertion := .bare }
    else some { state.insert.push character with insertion := .inactive }
  else if state.insertion = .braced then
    if character = '\x7d' then some { state.insert with insertion := .inactive }
    else some { state with name := character :: state.name }
  else if character = '$' then some { state with insertion := .bare }
  else if state.weak then
    if character = '"' then some { state with weak := false }
    else if character = '\\' then some { state with escaped := true }
    else some (state.push character)
  else if character = '\'' then some { state with strong := true }
  else if character = '"' then some { state with weak := true }
  else if character = '\\' then some { state with escaped := true }
  else if character = ' ' ∨ character = '\t' then some { state with ending := true }
  else some (state.push character)

/-- Take in the characters of a value, up to a comment behind its end. -/
def ValueState.run (state : ValueState) : List Char → Option ValueState
  | [] => some state
  | character :: rest =>
      if state.ending ∧ character = '#' then some state
      else
        match state.step character with
        | some state => state.run rest
        | none => none

/-- The parts of the value that a text writes. -/
def pieces? (text : List Char) : Option (List Piece) := do
  let state ← ValueState.run ⟨[], false, false, false, false, .inactive, []⟩ text
  if state.insertion = .braced ∨ state.strong ∨ state.weak then none
  else some state.insert.output.reverse

/-- Whether a character may begin a key. -/
def beginsKey (character : Char) : Bool :=
  character.isAlpha || character = '_'

/-- Whether a character may stand inside a key. -/
def inKey (character : Char) : Bool :=
  character.isAlphanum || character = '_' || character = '.'

/-- Read a key, and drop blanks behind it. -/
def key? (text : List Char) : Option (String × List Char) :=
  match text with
  | [] => none
  | first :: _ =>
      if beginsKey first then
        some (String.ofList (text.takeWhile inKey), Text.trimStart (text.dropWhile inKey))
      else none

/-- Read a key and the equals sign behind it; the word `export` may come first. -/
def keyAndEqual? (text : List Char) : Option (String × List Char) := do
  let (key, rest) ← key? text
  match rest with
  | '=' :: rest => some (key, rest)
  | rest =>
      if key = "export" then
        let (key, rest) ← key? rest
        match rest with
        | '=' :: rest => some (key, rest)
        | _ => none
      else none

/-- A key and the parts of its value. -/
structure Binding where
  key : String
  value : List Piece
  deriving DecidableEq

/-- What a line says: nothing, a binding, or something that is not allowed. -/
inductive Statement
  | nothing
  | binding (binding : Binding)
  | bad

/-- Read a line. -/
def statement (text : List Char) : Statement :=
  let text := Text.trim text
  match text with
  | [] => .nothing
  | '#' :: _ => .nothing
  | _ =>
      match keyAndEqual? text with
      | none => .bad
      | some (key, rest) =>
          match Text.trimStart rest with
          | [] => .binding ⟨key, []⟩
          | '#' :: _ => .binding ⟨key, []⟩
          | written =>
              match pieces? written with
              | some pieces => .binding ⟨key, pieces⟩
              | none => .bad

/-- The bindings of lines, up to the first bad one. -/
def bindings : List Line → List Binding
  | [] => []
  | .unfinished :: _ => []
  | .whole text :: later =>
      match statement text with
      | .nothing => bindings later
      | .bad => []
      | .binding binding => binding :: bindings later

/-- Read the bindings of a file. -/
def read (text : String) : List Binding :=
  let body := match text.toList with
    | '\uFEFF' :: rest => rest
    | rest => rest
  bindings (logicalLines (body.length + 1) .plain [] body)

/-- The variables that a binding sets or inserts. -/
def Binding.names (binding : Binding) : List String :=
  binding.key :: binding.value.filterMap fun piece =>
    match piece with
    | .character _ => none
    | .variable name => some name

/-- The variables so far: those that were set before, those that the file sets, and what the file
says of each key. -/
structure Variables where
  before : String → Option String
  set : SortedMap String
  stated : SortedMap String

namespace Variables

/-- The value of a variable that is set. -/
def get? (known : Variables) (name : String) : Option String :=
  match known.before name with
  | some value => some value
  | none => known.set.get? name

/-- The characters that a part of a value stands for. -/
def expand (known : Variables) : Piece → List Char
  | .character character => [character]
  | .variable name =>
      match known.get? name with
      | some value => value.toList
      | none => ((known.stated.get? name).getD "").toList

/-- Take in a binding: a variable that is set keeps its value. -/
def bind (known : Variables) (binding : Binding) : Variables :=
  let value := String.ofList (binding.value.flatMap known.expand)
  { known with
    set :=
      if (known.get? binding.key).isSome then known.set
      else known.set.insert binding.key value
    stated := known.stated.insert binding.key value }

end Variables

/-- The variables of an environment and those that bindings add. -/
def extend (environment : String → Option String) (bindings : List Binding) :
    String → Option String :=
  (bindings.foldl Variables.bind ⟨environment, .empty, .empty⟩).get?

end Environment
end Project
end CatalogIngest
