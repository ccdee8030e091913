import CatalogIngest.Json.Value

/-!
# Reading numerals

A numeral has an optional minus sign, whole digits, and optionally a fraction and an exponent.
Digits are gathered into a significand of 64 bits; whole digits that no longer fit only raise the
power of ten, and fraction digits that no longer fit are dropped. A numeral without fraction and
exponent whose value fits 64 bits is whole. Every other numeral is the significand scaled by powers
of ten in floating-point arithmetic, and one beyond the range of floating-point numbers has no
value.
-/

namespace CatalogIngest
namespace Json

/-- The parts of a numeral as they are written. -/
structure Numeral where
  negative : Bool
  whole : List Nat
  fraction : Option (List Nat)
  exponent : Option (Bool × List Nat)
  deriving DecidableEq, Inhabited

namespace Numeral

/-- The largest significand. -/
def largest : Nat := 18446744073709551615

/-- Append digits to a significand as long as it stays within a limit; the number of digits taken
and the digits left over. -/
def gather (limit significand taken : Nat) : List Nat → Nat × Nat × List Nat
  | [] => (significand, taken, [])
  | digit :: digits =>
      if significand * 10 + digit ≤ limit then
        gather limit (significand * 10 + digit) (taken + 1) digits
      else (significand, taken, digit :: digits)

/-- Multiply or divide by a power of ten, in steps of at most 308 places. -/
def scaleFloat (fuel : Nat) (value : Float) (exponent : Int) : Option Float :=
  match fuel with
  | 0 => some value
  | fuel + 1 =>
      if exponent.natAbs ≤ 308 then
        let power := Float.ofScientific 1 false exponent.natAbs
        if 0 ≤ exponent then
          let scaled := value * power
          if scaled.isInf then none else some scaled
        else some (value / power)
      else if value == 0 then some value
      else if 0 ≤ exponent then none
      else scaleFloat fuel (value / Float.ofScientific 1 false 308) (exponent + 308)

/-- A significand scaled by a power of ten. After three steps downwards every 64-bit significand has
become zero, so the number of steps is bounded. -/
def scaled (negative : Bool) (significand : Nat) (exponent : Int) : Option Number :=
  (scaleFloat 8 significand.toUInt64.toFloat exponent).map fun value =>
    .float (if negative then -value else value)

/-- The greatest magnitude of a negative whole number. -/
def greatestNegated : Nat := 9223372036854775808

/-- The largest magnitude of a written exponent. -/
def largestExponent : Nat := 2147483647

/-- Apply a written exponent to a significand that already carries a power of ten. -/
def withExponent (negative : Bool) (significand : Nat) (power : Int) :
    Option (Bool × List Nat) → Option Number
  | none => scaled negative significand power
  | some (down, digits) =>
      match gather largestExponent 0 0 digits with
      | (size, _, []) =>
          scaled negative significand (if down then power - size else power + size)
      | (_, _, _ :: _) =>
          if significand ≠ 0 ∧ down = false then none
          else some (.float (if negative then -0.0 else 0.0))

/-- The value of a numeral, if it is in range. -/
def value? (numeral : Numeral) : Option Number :=
  let (significand, _, dropped) := gather largest 0 0 numeral.whole
  match numeral.fraction, numeral.exponent, dropped with
  | none, none, [] =>
      if numeral.negative then
        if 0 < significand ∧ significand ≤ greatestNegated then
          some (.integer (-(significand : Int)))
        else some (.float (-significand.toUInt64.toFloat))
      else some (.integer significand)
  | none, exponent, _ =>
      withExponent numeral.negative significand dropped.length exponent
  | some fraction, exponent, _ =>
      let (finer, places, _) := gather largest significand 0 fraction
      withExponent numeral.negative finer ((dropped.length : Int) - places) exponent

end Numeral
end Json
end CatalogIngest
