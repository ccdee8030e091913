import CatalogIngest.Number.Reading
import CatalogIngest.Text.Blank
import CatalogIngest.Text.Split
import CatalogIngest.Time.Calendar

/-!
# Reading timestamps

A timestamp is read as RFC 3339 first: fixed numbers of digits, an optional fraction, and an offset.
A text of another form loses its trailing letters Z and is read as universal time: there, numbers
may have blanks before them and fewer digits, and a year with a sign may have any number of digits.
Fractions are cut after nine digits, and milliseconds are rounded down.
-/

namespace CatalogIngest
namespace Time

/-- Read at most so many digits and append them to a number. -/
def takeDigits : Nat → Nat → List Char → Nat × Nat × List Char
  | 0, value, text => (value, 0, text)
  | _ + 1, value, [] => (value, 0, [])
  | places + 1, value, character :: text =>
      match Number.digitValue? character with
      | some digit =>
          let (value, taken, rest) := takeDigits places (value * 10 + digit) text
          (value, taken + 1, rest)
      | none => (value, 0, character :: text)

/-- Read exactly so many digits. -/
def fixedNumber (places : Nat) (text : List Char) : Option (Nat × List Char) :=
  let (value, taken, rest) := takeDigits places 0 text
  if taken = places then some (value, rest) else none

/-- Read a number of at least one and at most so many digits. -/
def shortNumber (places : Nat) (text : List Char) : Option (Nat × List Char) :=
  let (value, taken, rest) := takeDigits places 0 text
  if 0 < taken then some (value, rest) else none

/-- Read a given character. -/
def expect (character : Char) : List Char → Option (List Char)
  | first :: rest => if first = character then some rest else none
  | [] => none

/-- Read an optional fraction as nanoseconds: at least one digit behind a point, the tenth and later
digits dropped. -/
def fraction : List Char → Option (Nat × List Char)
  | '.' :: text =>
      let (value, taken, rest) := takeDigits 9 0 text
      if taken = 0 then none
      else some (value * Nat.pow 10 (9 - taken), rest.dropWhile Number.isDigit)
  | text => some (0, text)

/-- Read an offset from universal time, in minutes. -/
def offset : List Char → Option (Int × List Char)
  | 'Z' :: rest => some (0, rest)
  | 'z' :: rest => some (0, rest)
  | sign :: text => do
      let factor ← if sign = '+' then some (1 : Int)
        else if sign = '-' ∨ sign = '−' then some (-1)
        else none
      let (hours, text) ← fixedNumber 2 text
      let text ← expect ':' text
      let (minutes, text) ← fixedNumber 2 text
      if hours ≤ 23 ∧ minutes ≤ 59 then
        some (factor * ((hours : Int) * 60 + minutes), text)
      else none
  | [] => none

/-- Read the letter or space between date and time. -/
def dateSeparator : List Char → Option (List Char)
  | first :: rest => if first = 'T' ∨ first = 't' ∨ first = ' ' then some rest else none
  | [] => none

/-- The milliseconds of an RFC 3339 timestamp. -/
def readInternet? (text : String) : Option Int := do
  let (year, text) ← fixedNumber 4 text.toList
  let text ← expect '-' text
  let (month, text) ← fixedNumber 2 text
  let text ← expect '-' text
  let (day, text) ← fixedNumber 2 text
  let text ← dateSeparator text
  let (hour, text) ← fixedNumber 2 text
  let text ← expect ':' text
  let (minute, text) ← fixedNumber 2 text
  let text ← expect ':' text
  let (second, text) ← fixedNumber 2 text
  let (nanosecond, text) ← fraction text
  let (minutes, text) ← offset text
  let time : CivilTime := ⟨year, month, day, hour, minute, second, nanosecond⟩
  if text.isEmpty ∧ time.isValid then some (time.millis - minutes * 60000) else none

/-- Read a year: up to four digits, or a sign and any number of digits. -/
def looseYear (text : List Char) : Option (Int × List Char) :=
  match Text.trimStart text with
  | '-' :: rest => (shortNumber rest.length rest).map fun found => (-(found.1 : Int), found.2)
  | '+' :: rest => (shortNumber rest.length rest).map fun found => ((found.1 : Int), found.2)
  | rest => (shortNumber 4 rest).map fun found => ((found.1 : Int), found.2)

/-- Read a number of one or two digits behind blanks. -/
def looseNumber (text : List Char) : Option (Nat × List Char) :=
  shortNumber 2 (Text.trimStart text)

/-- The milliseconds of a timestamp without an offset. -/
def readLocal? (text : List Char) : Option Int := do
  let (year, text) ← looseYear text
  let text ← expect '-' text
  let (month, text) ← looseNumber text
  let text ← expect '-' text
  let (day, text) ← looseNumber text
  let text ← expect 'T' text
  let (hour, text) ← looseNumber text
  let text ← expect ':' text
  let (minute, text) ← looseNumber text
  let text ← expect ':' text
  let (second, text) ← looseNumber text
  let (nanosecond, text) ← fraction text
  let time : CivilTime := ⟨year, month, day, hour, minute, second, nanosecond⟩
  if text.isEmpty ∧ time.isValid then some time.millis else none

/-- A text without trailing letters Z. -/
def dropTrailingZ (text : List Char) : List Char :=
  (text.reverse.dropWhile (· = 'Z')).reverse

/-- The milliseconds that a timestamp stands for. -/
def readMillis? (text : String) : Option Int :=
  match readInternet? text with
  | some millis => some millis
  | none => readLocal? (dropTrailingZ text.toList)

/-- The message for a text that is no timestamp. -/
def invalidMessage (text : String) : String :=
  "Invalid timestamp '" ++ text ++ "'"

end Time
end CatalogIngest
