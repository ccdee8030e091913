/-!
# Reading whole numbers

A whole number is written with decimal digits after an optional plus sign. Readers that fill a
field of fixed width refuse numbers above its limit.
-/

namespace CatalogIngest
namespace Number

/-- The value of a decimal digit. -/
def digitValue? (character : Char) : Option Nat :=
  if '0' ≤ character ∧ character ≤ '9' then some (character.toNat - 48) else none

/-- Whether a character is a decimal digit. -/
def isDigit (character : Char) : Bool :=
  (digitValue? character).isSome

/-- The value of decimal digits written after a number. -/
def readDigits? (value : Nat) : List Char → Option Nat
  | [] => some value
  | character :: digits =>
      match digitValue? character with
      | some digit => readDigits? (value * 10 + digit) digits
      | none => none

/-- The number written by a non-empty row of digits. -/
def readNatural? : List Char → Option Nat
  | [] => none
  | digits => readDigits? 0 digits

/-- The number written by digits after an optional plus sign, if it is at most a limit. -/
def readAtMost? (limit : Nat) (text : List Char) : Option Nat :=
  let digits := match text with
    | '+' :: digits => digits
    | digits => digits
  (readNatural? digits).filter fun value => value ≤ limit

/-- The decimal digits of a number. -/
def digits (number : Nat) : List Char :=
  Nat.toDigits 10 number

/-- The decimal text of a number. -/
def decimal (number : Nat) : String :=
  String.ofList (digits number)

/-- The decimal text of an integer. -/
def signedDecimal : Int → String
  | .ofNat number => decimal number
  | .negSucc number => "-" ++ decimal (number + 1)

end Number
end CatalogIngest
