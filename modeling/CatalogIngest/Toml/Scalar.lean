import CatalogIngest.Number.Reading
import CatalogIngest.Text.Split
import CatalogIngest.Time.Calendar
import CatalogIngest.Toml.Value

/-!
# TOML numbers, dates and times

A value that is neither a string nor a container is a single word: a truth value, a whole number in
one of four bases, a floating-point number, a date, a time, or both. Underscores may stand between
two digits. Whole numbers have 64 bits.
-/

namespace CatalogIngest
namespace Toml

/-- The value of a digit in some base. -/
def digitIn? (base : Nat) (character : Char) : Option Nat :=
  let value? :=
    if '0' ≤ character ∧ character ≤ '9' then some (character.toNat - 48)
    else if 'a' ≤ character ∧ character ≤ 'f' then some (character.toNat - 87)
    else if 'A' ≤ character ∧ character ≤ 'F' then some (character.toNat - 55)
    else none
  value?.filter fun value => value < base

/-- Read digits with single underscores between them, after a first digit. -/
def digitsAfter (base : Nat) : List Char → Option (List Nat)
  | [] => some []
  | '_' :: character :: rest => do
      let digit ← digitIn? base character
      let digits ← digitsAfter base rest
      return digit :: digits
  | character :: rest => do
      let digit ← digitIn? base character
      let digits ← digitsAfter base rest
      return digit :: digits

/-- Read a non-empty row of digits with single underscores between them. -/
def digitRow? (base : Nat) : List Char → Option (List Nat)
  | [] => none
  | character :: rest => do
      let digit ← digitIn? base character
      let digits ← digitsAfter base rest
      return digit :: digits

/-- The number that digits write in a base. -/
def numberOf (base : Nat) (digits : List Nat) : Nat :=
  digits.foldl (fun value digit => value * base + digit) 0

/-- Read whole decimal digits: a single zero, or digits that do not begin with zero. -/
def wholeDigits? (text : List Char) : Option (List Nat) :=
  match digitRow? 10 text with
  | some (0 :: _ :: _) => none
  | digits => digits

/-- Split an optional sign from a text. -/
def signed (text : List Char) : Bool × List Char :=
  match text with
  | '-' :: rest => (true, rest)
  | '+' :: rest => (false, rest)
  | rest => (false, rest)

/-- The greatest magnitude of a negative number of 64 bits. -/
def greatestMagnitude : Nat := 9223372036854775808

/-- A magnitude with a sign, if it has 64 bits. -/
def wordOf? (negative : Bool) (magnitude : Nat) : Option Int :=
  if negative then if magnitude ≤ greatestMagnitude then some (-(magnitude : Int)) else none
  else if magnitude < greatestMagnitude then some magnitude
  else none

/-- Read a whole number. -/
def integer? (text : List Char) : Option Int :=
  match text with
  | '0' :: 'x' :: digits => (digitRow? 16 digits).bind fun row => wordOf? false (numberOf 16 row)
  | '0' :: 'o' :: digits => (digitRow? 8 digits).bind fun row => wordOf? false (numberOf 8 row)
  | '0' :: 'b' :: digits => (digitRow? 2 digits).bind fun row => wordOf? false (numberOf 2 row)
  | _ =>
      let (negative, digits) := signed text
      (wholeDigits? digits).bind fun row => wordOf? negative (numberOf 10 row)

/-- A decimal as a floating-point number, without computing enormous powers. -/
def decimalFloat (significand : Nat) (exponent : Int) : Float :=
  let leading : Int := exponent + (Number.digits significand).length
  if significand = 0 ∨ leading < -400 then 0
  else if 400 < leading then 1.0 / 0.0
  else Float.ofScientific significand (exponent < 0) exponent.natAbs

/-- Read a floating-point number that is written with digits. It may not be above all numbers. -/
def decimal? (text : List Char) : Option Float := do
  let (negative, body) := signed text
  let isMark := fun character => character = 'e' || character = 'E'
  let mantissa := body.takeWhile fun character => !isMark character
  let exponent ← match body.dropWhile fun character => !isMark character with
    | [] => some (0 : Int)
    | _ :: digits =>
        let (down, digits) := signed digits
        (digitRow? 10 digits).map fun row =>
          if down then -(numberOf 10 row : Int) else numberOf 10 row
  let whole ← wholeDigits? (mantissa.takeWhile (· ≠ '.'))
  let fraction ← match mantissa.dropWhile (· ≠ '.') with
    | [] => if mantissa.length = body.length then none else some []
    | _ :: digits => digitRow? 10 digits
  let value := decimalFloat (numberOf 10 (whole ++ fraction)) (exponent - fraction.length)
  if negative then some (-value) else if value.isInf then none else some value

/-- Read a floating-point number. -/
def float? (text : List Char) : Option Float :=
  let (negative, body) := signed text
  if body = "inf".toList then some (if negative then -1.0 / 0.0 else 1.0 / 0.0)
  else if body = "nan".toList then some (0.0 / 0.0)
  else decimal? text

/-- Read exactly so many digits. -/
def fixedDigits? (places : Nat) (text : List Char) : Option (Nat × List Char) :=
  let front := text.take places
  if front.length = places then
    (Number.readNatural? front).map fun value => (value, text.drop places)
  else none

/-- Read a date and the text behind it. -/
def date? (text : List Char) : Option (List Char) := do
  let (year, text) ← fixedDigits? 4 text
  let text ← Text.afterStart? ['-'] text
  let (month, text) ← fixedDigits? 2 text
  let text ← Text.afterStart? ['-'] text
  let (day, text) ← fixedDigits? 2 text
  if 1 ≤ month ∧ month ≤ 12 ∧ 1 ≤ day ∧ day ≤ Time.daysInMonth year month then some text else none

/-- Read an optional fraction of a second. -/
def secondFraction? : List Char → Option (List Char)
  | '.' :: text =>
      let rest := text.dropWhile Number.isDigit
      if rest.length < text.length then some rest else none
  | text => some text

/-- Read a time of day and the text behind it. -/
def time? (text : List Char) : Option (List Char) := do
  let (hour, text) ← fixedDigits? 2 text
  let text ← Text.afterStart? [':'] text
  let (minute, text) ← fixedDigits? 2 text
  let text ← Text.afterStart? [':'] text
  let (second, text) ← fixedDigits? 2 text
  let text ← secondFraction? text
  if hour ≤ 23 ∧ minute ≤ 59 ∧ second ≤ 60 then some text else none

/-- Whether a text is an offset from universal time, or empty. -/
def isOffset : List Char → Bool
  | [] => true
  | ['Z'] => true
  | ['z'] => true
  | sign :: text =>
      (sign = '+' || sign = '-') &&
        match fixedDigits? 2 text with
        | some (hours, ':' :: text) =>
            match fixedDigits? 2 text with
            | some (minutes, []) => hours ≤ 23 && minutes ≤ 59
            | _ => false
        | _ => false

/-- Whether a text is a date, a time, or both. -/
def isDateTime (text : List Char) : Bool :=
  match date? text with
  | some [] => true
  | some (separator :: rest) =>
      (separator = 'T' || separator = 't' || separator = ' ') &&
        match time? rest with
        | some offset => isOffset offset
        | none => false
  | none => time? text == some []

/-- The value that a word stands for. -/
def scalar? (word : List Char) : Option Value :=
  if word = "true".toList then some (.boolean true)
  else if word = "false".toList then some (.boolean false)
  else if isDateTime word then some (.dateTime (String.ofList word))
  else
    match integer? word with
    | some value => some (.integer value)
    | none => (float? word).map .float

/-- Whether a character may be part of a word. -/
def inWord (character : Char) : Bool :=
  Number.isDigit character || ('a' ≤ character && character ≤ 'z') ||
    ('A' ≤ character && character ≤ 'Z') || character = '+' || character = '-' ||
    character = '_' || character = '.' || character = ':'

/-- Read a word. A date may be followed by a space and a time. -/
def readScalar? (text : List Char) : Option (Value × List Char) :=
  let word := text.takeWhile inWord
  let rest := text.dropWhile inWord
  match date? word, rest with
  | some [], ' ' :: digit :: later =>
      if Number.isDigit digit then
        let time := (digit :: later).takeWhile inWord
        (scalar? (word ++ ' ' :: time)).map fun value =>
          (value, (digit :: later).dropWhile inWord)
      else (scalar? word).map fun value => (value, rest)
  | _, _ => (scalar? word).map fun value => (value, rest)

end Toml
end CatalogIngest
