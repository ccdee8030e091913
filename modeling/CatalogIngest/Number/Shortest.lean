import CatalogIngest.Number.Reading

/-!
# Shortest decimals

A finite binary floating-point number is written with the fewest decimal digits that read back as
the same number. Of two candidates with equally many digits the nearer is taken, and of two equally
near ones the even. All comparisons are exact, on natural numbers.
-/

namespace CatalogIngest
namespace Number

/-- The number `significand * 2 ^ exponent`. -/
structure Binary where
  significand : Nat
  exponent : Int
  deriving DecidableEq

/-- The number `significand * 10 ^ exponent`. -/
structure Decimal where
  significand : Nat
  exponent : Int
  deriving DecidableEq

namespace Binary

/-- The least significand of a normal number, the power of two with exponent 52. -/
def leastNormal : Nat := 4503599627370496

/-- The magnitude of a finite floating-point number, from its bits. -/
def ofBits (bits : Nat) : Binary :=
  let fraction := bits % leastNormal
  let field := bits / leastNormal % 2048
  if field = 0 then ⟨fraction, -1074⟩ else ⟨leastNormal + fraction, (field : Int) - 1075⟩

end Binary

/-- A number as a quotient, with the bounds of the numbers that round to it over one divisor. -/
structure Interval where
  low : Nat
  value : Nat
  high : Nat
  divisor : Nat
  closed : Bool

namespace Interval

/-- The rounding interval of a positive binary number. -/
def around (number : Binary) : Interval :=
  let quarter := number.exponent - 2
  let factor := Nat.pow 2 quarter.toNat
  let below := if number.significand = Binary.leastNormal ∧ -1074 < number.exponent then 1 else 2
  { low := (4 * number.significand - below) * factor
    value := 4 * number.significand * factor
    high := (4 * number.significand + 2) * factor
    divisor := Nat.pow 2 (-quarter).toNat
    closed := number.significand % 2 = 0 }

/-- The same interval measured in units of a power of ten. -/
def inUnits (interval : Interval) (exponent : Int) : Interval :=
  let up := Nat.pow 10 (-exponent).toNat
  { interval with
    low := interval.low * up
    value := interval.value * up
    high := interval.high * up
    divisor := interval.divisor * Nat.pow 10 exponent.toNat }

/-- Whether a whole number of units, not above the value, lies in the interval. -/
def admitsBelow (interval : Interval) (count : Nat) : Bool :=
  interval.low < count * interval.divisor ||
    (interval.closed && interval.low = count * interval.divisor)

/-- Whether a whole number of units, not below the value, lies in the interval. -/
def admitsAbove (interval : Interval) (count : Nat) : Bool :=
  count * interval.divisor < interval.high ||
    (interval.closed && count * interval.divisor = interval.high)

/-- The whole number of units in the interval that is nearest to the value, if one is a neighbour
of the value. -/
def nearest? (interval : Interval) : Option Nat :=
  let floor := interval.value / interval.divisor
  let rest := interval.value % interval.divisor
  let belowFits := interval.admitsBelow floor && 0 < floor
  let aboveFits := interval.admitsAbove (floor + 1)
  if belowFits && aboveFits then
    if 2 * rest < interval.divisor then some floor
    else if interval.divisor < 2 * rest then some (floor + 1)
    else if floor % 2 = 0 then some floor
    else some (floor + 1)
  else if belowFits then some floor
  else if aboveFits then some (floor + 1)
  else none

end Interval

/-- The least number of tenfold steps that bring a quotient to at least one. -/
def stepsToOne : Nat → Nat → Nat → Nat
  | 0, _, _ => 0
  | fuel + 1, value, divisor =>
      if divisor ≤ value then 0 else stepsToOne fuel (value * 10) divisor + 1

/-- The power of ten of the leading digit of a positive quotient. -/
def leadingPlace (value divisor : Nat) : Int :=
  if divisor ≤ value then ((digits (value / divisor)).length : Int) - 1
  else -(stepsToOne 400 value divisor : Int)

/-- Try ever finer grids, with the given number of attempts left. -/
def searchGrids (interval : Interval) (place : Int) : Nat → Decimal
  | 0 => ⟨interval.value / interval.divisor, 0⟩
  | attempts + 1 =>
      match (interval.inUnits place).nearest? with
      | some significand => ⟨significand, place⟩
      | none => searchGrids interval (place - 1) attempts

/-- The shortest decimal that reads back as a positive binary number. -/
def Binary.shortest (number : Binary) : Decimal :=
  let interval := Interval.around number
  searchGrids interval (leadingPlace interval.value interval.divisor) 18

/-- Divide factors of ten out of a significand. -/
def Decimal.strip : Nat → Decimal → Decimal
  | 0, number => number
  | fuel + 1, number =>
      if number.significand ≠ 0 ∧ number.significand % 10 = 0 then
        Decimal.strip fuel ⟨number.significand / 10, number.exponent + 1⟩
      else number

/-- Positive decimals with a leading digit from 10⁻⁵ to 10¹⁵ are written in full, with at least one
digit after the point; others are written with an exponent. -/
def Decimal.text (number : Decimal) : List Char :=
  let row := digits number.significand
  let leading : Int := number.exponent + row.length - 1
  if -5 ≤ leading ∧ leading ≤ 15 then
    if 0 ≤ number.exponent then
      row ++ List.replicate number.exponent.toNat '0' ++ ['.', '0']
    else if 0 ≤ leading then
      row.take (leading + 1).toNat ++ '.' :: row.drop (leading + 1).toNat
    else
      '0' :: '.' :: List.replicate (-leading - 1).toNat '0' ++ row
  else
    let mantissa := match row with
      | [] => []
      | [single] => [single]
      | first :: later => first :: '.' :: later
    let sign := if leading < 0 then '-' else '+'
    mantissa ++ 'e' :: sign :: digits leading.natAbs

/-- The sign bit of a floating-point number, the power of two with exponent 63. -/
def signBit : Nat := 9223372036854775808

/-- The text of a finite floating-point number. -/
def floatText (number : Float) : String :=
  let bits := number.toBits.toNat
  let magnitude := Binary.ofBits (bits % signBit)
  let sign := if signBit ≤ bits then ['-'] else []
  let body :=
    if magnitude.significand = 0 then ['0', '.', '0']
    else (Decimal.strip 400 magnitude.shortest).text
  String.ofList (sign ++ body)

end Number
end CatalogIngest
