import CatalogIngest.Number.Reading
import CatalogIngest.Time.Calendar

/-!
# Writing times

A time in milliseconds since 1970 is written as a date and a time of day in UTC.
-/

namespace CatalogIngest
namespace Time

/-- A number with zeros in front, up to a number of places. -/
def zeroPadded (places number : Nat) : String :=
  let digits := Number.digits number
  String.ofList (List.replicate (places - digits.length) '0' ++ digits)

/-- The text of a time. -/
def instantText (millis : Int) : String :=
  let (year, month, day) := dateOfDays (millis / 86400000)
  let rest := (millis % 86400000).toNat
  zeroPadded 4 year.toNat ++ "-" ++ zeroPadded 2 month ++ "-" ++ zeroPadded 2 day ++ "T" ++
    zeroPadded 2 (rest / 3600000) ++ ":" ++ zeroPadded 2 (rest / 60000 % 60) ++ ":" ++
      zeroPadded 2 (rest / 1000 % 60) ++ "." ++ zeroPadded 3 (rest % 1000) ++ "Z"

end Time
end CatalogIngest
