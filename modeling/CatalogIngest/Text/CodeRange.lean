/-!
# Ranges of code points

Character properties are given as increasing lists of inclusive ranges. Membership stops at the
first range that starts beyond the code point.
-/

namespace CatalogIngest
namespace Text

/-- An inclusive range of code points. -/
structure CodeRange where
  first : Nat
  last : Nat
  deriving DecidableEq

namespace CodeRange

/-- Whether a code point lies in a range. -/
def contains (range : CodeRange) (code : Nat) : Bool :=
  range.first ≤ code && code ≤ range.last

/-- Whether a code point lies in one of several ranges listed in increasing order. -/
def covers : List CodeRange → Nat → Bool
  | [], _ => false
  | range :: later, code =>
      if code < range.first then false
      else code ≤ range.last || covers later code

@[simp] theorem covers_nil (code : Nat) : covers [] code = false := rfl

/-- The ranges named by pairs of end points. -/
def ofPairs (pairs : List (Nat × Nat)) : List CodeRange :=
  pairs.map fun pair => ⟨pair.1, pair.2⟩

end CodeRange
end Text
end CatalogIngest
