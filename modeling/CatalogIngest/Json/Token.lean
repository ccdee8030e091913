import CatalogIngest.Json.Numeral
import CatalogIngest.Text.Split

/-!
# JSON tokens

The text of a document is first cut into punctuation, words, numerals and strings. Blanks between
tokens are space, tab, line feed and carriage return only. A string token has no text when an escape
names a surrogate without its partner, and a numeral token has no value when it is out of range: a
reader that skips the token does not mind.
-/

namespace CatalogIngest
namespace Json

/-- A token of a JSON document. -/
inductive Token
  | openArray
  | closeArray
  | openObject
  | closeObject
  | comma
  | colon
  | null
  | boolean (value : Bool)
  | number (value : Option Number)
  | string (text : Option String)
  deriving Inhabited

namespace Token

/-- The value of a hexadecimal digit. -/
def hexValue? (character : Char) : Option Nat :=
  if '0' ≤ character ∧ character ≤ '9' then some (character.toNat - 48)
  else if 'a' ≤ character ∧ character ≤ 'f' then some (character.toNat - 87)
  else if 'A' ≤ character ∧ character ≤ 'F' then some (character.toNat - 55)
  else none

/-- The code unit of four hexadecimal digits. -/
def unit? (first second third fourth : Char) : Option Nat := do
  let first ← hexValue? first
  let second ← hexValue? second
  let third ← hexValue? third
  let fourth ← hexValue? fourth
  return first * 4096 + second * 256 + third * 16 + fourth

/-- The character of a one-letter escape. -/
def shortEscape? : Char → Option Char
  | '"' => some '"'
  | '\\' => some '\\'
  | '/' => some '/'
  | 'b' => some '\x08'
  | 'f' => some '\x0c'
  | 'n' => some '\n'
  | 'r' => some '\r'
  | 't' => some '\t'
  | _ => none

/-- What is known of a string while it is read: its characters so far, latest first, unless a lone
surrogate was met, and a leading surrogate that waits for its partner. -/
structure Pending where
  characters : Option (List Char)
  leading : Option Nat

namespace Pending

/-- Nothing has been read yet. -/
def start : Pending := ⟨some [], none⟩

/-- Append a character. A surrogate that waits stays alone. -/
def push (pending : Pending) (character : Char) : Pending :=
  match pending.leading with
  | some _ => ⟨none, none⟩
  | none => ⟨pending.characters.map (character :: ·), none⟩

/-- Append an escaped code unit, joining the two halves of a surrogate pair. -/
def pushUnit (pending : Pending) (unit : Nat) : Pending :=
  match pending.leading with
  | some leading =>
      if 0xDC00 ≤ unit ∧ unit ≤ 0xDFFF then
        let code := 0x10000 + (leading - 0xD800) * 0x400 + (unit - 0xDC00)
        ⟨pending.characters.map (Char.ofNat code :: ·), none⟩
      else ⟨none, none⟩
  | none =>
      if 0xD800 ≤ unit ∧ unit ≤ 0xDBFF then ⟨pending.characters, some unit⟩
      else if 0xDC00 ≤ unit ∧ unit ≤ 0xDFFF then ⟨none, none⟩
      else ⟨pending.characters.map (Char.ofNat unit :: ·), none⟩

/-- The text at the end of the string. -/
def text? (pending : Pending) : Option String :=
  match pending.leading with
  | some _ => none
  | none => pending.characters.map fun characters => String.ofList characters.reverse

end Pending

/-- Read a string after its opening quote; the token and the text behind the closing quote. -/
def readString? (pending : Pending) : List Char → Option (Token × List Char)
  | [] => none
  | '"' :: rest => some (.string pending.text?, rest)
  | '\\' :: 'u' :: first :: second :: third :: fourth :: rest =>
      match unit? first second third fourth with
      | some unit => readString? (pending.pushUnit unit) rest
      | none => none
  | '\\' :: letter :: rest =>
      match shortEscape? letter with
      | some character => readString? (pending.push character) rest
      | none => none
  | character :: rest =>
      if character.toNat < 32 ∨ character = '\\' then none
      else readString? (pending.push character) rest

/-- Read as many digits as there are. -/
def readDigits : List Char → List Nat × List Char
  | [] => ([], [])
  | character :: rest =>
      match CatalogIngest.Number.digitValue? character with
      | some digit =>
          let (digits, rest) := readDigits rest
          (digit :: digits, rest)
      | none => ([], character :: rest)

/-- Read at least one digit. -/
def readSomeDigits? (text : List Char) : Option (List Nat × List Char) :=
  match readDigits text with
  | ([], _) => none
  | (digits, rest) => some (digits, rest)

/-- Read whole digits: a single zero, or digits that do not begin with zero. -/
def readWhole? : List Char → Option (List Nat × List Char)
  | '0' :: rest => some ([0], rest)
  | text => readSomeDigits? text

/-- Read a fraction if a point follows. -/
def readFraction? : List Char → Option (Option (List Nat) × List Char)
  | '.' :: rest => do
      let (digits, rest) ← readSomeDigits? rest
      return (some digits, rest)
  | text => some (none, text)

/-- Read a signed exponent if the letter e follows. -/
def readExponent? : List Char → Option (Option (Bool × List Nat) × List Char)
  | letter :: rest =>
      if letter = 'e' ∨ letter = 'E' then do
        let (down, rest) := match rest with
          | '-' :: rest => (true, rest)
          | '+' :: rest => (false, rest)
          | rest => (false, rest)
        let (digits, rest) ← readSomeDigits? rest
        return (some (down, digits), rest)
      else some (none, letter :: rest)
  | [] => some (none, [])

/-- Read a numeral. -/
def readNumeral? (text : List Char) : Option (Numeral × List Char) := do
  let (negative, rest) := match text with
    | '-' :: rest => (true, rest)
    | rest => (false, rest)
  let (whole, rest) ← readWhole? rest
  let (fraction, rest) ← readFraction? rest
  let (exponent, rest) ← readExponent? rest
  return (⟨negative, whole, fraction, exponent⟩, rest)

/-- Read the word of a constant. -/
def readWord? (text : List Char) : Option (Token × List Char) :=
  match Text.afterStart? "null".toList text with
  | some rest => some (.null, rest)
  | none =>
      match Text.afterStart? "true".toList text with
      | some rest => some (.boolean true, rest)
      | none => (Text.afterStart? "false".toList text).map fun rest => (.boolean false, rest)

/-- Read one token from a text that does not begin with a blank. -/
def read? : List Char → Option (Token × List Char)
  | [] => none
  | '[' :: rest => some (.openArray, rest)
  | ']' :: rest => some (.closeArray, rest)
  | '\x7b' :: rest => some (.openObject, rest)
  | '\x7d' :: rest => some (.closeObject, rest)
  | ',' :: rest => some (.comma, rest)
  | ':' :: rest => some (.colon, rest)
  | '"' :: rest => readString? .start rest
  | character :: rest =>
      if character = '-' ∨ CatalogIngest.Number.isDigit character then
        (readNumeral? (character :: rest)).map fun found => (.number found.1.value?, found.2)
      else readWord? (character :: rest)

/-- Whether a character may stand between tokens. -/
def isGap (character : Char) : Bool :=
  character = ' ' || character = '\n' || character = '\t' || character = '\r'

/-- Read the tokens of a text, given at least as much fuel as the text has characters. -/
def readAllWith (fuel : Nat) (found : List Token) (text : List Char) : Option (List Token) :=
  match fuel, text.dropWhile isGap with
  | _, [] => some found.reverse
  | 0, _ :: _ => none
  | fuel + 1, text =>
      match read? text with
      | some (token, rest) => readAllWith fuel (token :: found) rest
      | none => none

/-- The tokens of a text, if it consists of tokens and blanks. -/
def readAll (text : List Char) : Option (List Token) :=
  readAllWith text.length [] text

end Token
end Json
end CatalogIngest
