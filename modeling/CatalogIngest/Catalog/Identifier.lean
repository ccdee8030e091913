import CatalogIngest.Entity

/-!
# Numbered identities

The in-memory catalog numbers its entities. An identity writes its number with at least 32
hexadecimal digits in groups of 8, 4, 4, 4 and 12.
-/

namespace CatalogIngest
namespace EntityId

/-- The hexadecimal digits of a number, at least 32 of them. -/
def paddedDigits (number : Nat) : List Char :=
  let digits := Nat.toDigits 16 number
  List.replicate (32 - digits.length) '0' ++ digits

/-- The identity of a number. -/
def ofNumber (number : Nat) : EntityId :=
  let digits := paddedDigits number
  let first := digits.length - 24
  ⟨String.ofList
    (digits.take first ++ '-' :: (digits.drop first).take 4 ++
      '-' :: (digits.drop (first + 4)).take 4 ++ '-' :: (digits.drop (first + 8)).take 4 ++
        '-' :: digits.drop (first + 12))⟩

end EntityId
end CatalogIngest
