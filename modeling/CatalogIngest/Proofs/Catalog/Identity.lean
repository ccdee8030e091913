import CatalogIngest.Catalog.Identifier
import Mathlib.Logic.Function.Basic

/-!
# Different numbers have different identities

The text of a numbered identity reads back: without its dashes it is a hexadecimal numeral, and the
zeros in front of the numeral do not change its value.
-/

namespace CatalogIngest
namespace EntityId

/-- The value of a hexadecimal digit. -/
def digitValue (digit : Char) : Nat :=
  if digit.toNat < 58 then digit.toNat - 48 else digit.toNat - 87

/-- The number that hexadecimal digits write, behind digits already read. -/
def readDigits (read : Nat) (digits : List Char) : Nat :=
  digits.foldl (fun number digit => 16 * number + digitValue digit) read

theorem digitValue_digitChar
    {value : Nat}
    (isDigit : value < 16) :
    digitValue value.digitChar = value := by
  have every : ∀ digit : Fin 16, digitValue (digit : Nat).digitChar = digit := by decide
  exact every ⟨value, isDigit⟩

/-- A hexadecimal numeral writes its number. -/
theorem readDigits_toDigits (number : Nat) :
    readDigits 0 (Nat.toDigits 16 number) = number := by
  induction number using Nat.strongRecOn with
  | ind number inductionHypothesis =>
      by_cases small : number < 16
      · rw [Nat.toDigits_of_lt_base small]
        simp [readDigits, digitValue_digitChar small]
      · have front := inductionHypothesis (number / 16) (by omega)
        have last := digitValue_digitChar (Nat.mod_lt number (by decide : 0 < 16))
        unfold readDigits at front ⊢
        rw [Nat.toDigits_of_base_le (by decide) (Nat.le_of_not_lt small),
          List.foldl_append, front]
        simp only [List.foldl_cons, List.foldl_nil, last]
        omega

theorem dash_not_mem_toDigits (number : Nat) : '-' ∉ Nat.toDigits 16 number := by
  induction number using Nat.strongRecOn with
  | ind number inductionHypothesis =>
      by_cases small : number < 16
      · rw [Nat.toDigits_of_lt_base small]
        simp
      · have front := inductionHypothesis (number / 16) (by omega)
        rw [Nat.toDigits_of_base_le (by decide) (Nat.le_of_not_lt small)]
        simp [front]

theorem readDigits_zeros
    (count : Nat)
    (digits : List Char) :
    readDigits 0 (List.replicate count '0' ++ digits) = readDigits 0 digits := by
  induction count with
  | zero => rfl
  | succ count inductionHypothesis =>
      simpa [List.replicate_succ, readDigits, digitValue] using inductionHypothesis

theorem readDigits_paddedDigits (number : Nat) :
    readDigits 0 (paddedDigits number) = number := by
  rw [paddedDigits, readDigits_zeros, readDigits_toDigits]

theorem dash_not_mem_paddedDigits (number : Nat) : '-' ∉ paddedDigits number := by
  simp [paddedDigits, dash_not_mem_toDigits]

/-- Cutting a row of digits into five groups loses nothing. -/
theorem groups_append
    (digits : List Char)
    (first : Nat) :
    digits.take first ++ ((digits.drop first).take 4 ++ ((digits.drop (first + 4)).take 4 ++
      ((digits.drop (first + 8)).take 4 ++ digits.drop (first + 12)))) = digits := by
  have rejoin : ∀ position,
      (digits.drop position).take 4 ++ digits.drop (position + 4) = digits.drop position := by
    intro position
    rw [← List.drop_drop, List.take_append_drop]
  rw [rejoin (first + 8), rejoin (first + 4), rejoin first, List.take_append_drop]

/-- Without its dashes an identity is a row of digits. -/
theorem filter_ofNumber (number : Nat) :
    (ofNumber number).text.toList.filter (· ≠ '-') = paddedDigits number := by
  have noDash : ∀ digit ∈ paddedDigits number, digit ≠ '-' := by
    rintro digit member rfl
    exact dash_not_mem_paddedDigits number member
  calc
    (ofNumber number).text.toList.filter (· ≠ '-') =
        (paddedDigits number).filter (· ≠ '-') := by
      refine Eq.trans ?_ (congrArg (List.filter (· ≠ '-'))
        (groups_append (paddedDigits number) ((paddedDigits number).length - 24)))
      simp only [ofNumber, String.toList_ofList, List.append_assoc, List.cons_append,
        List.filter_append, ne_eq, decide_not, decide_true, Bool.not_true, Bool.false_eq_true,
        not_false_eq_true, List.filter_cons_of_neg]
    _ = paddedDigits number :=
      List.filter_eq_self.mpr fun digit member => by simpa using noDash digit member

theorem ofNumber_injective : Function.Injective ofNumber := by
  intro left right same
  have digits : paddedDigits left = paddedDigits right := by
    rw [← filter_ofNumber, ← filter_ofNumber, same]
  rw [← readDigits_paddedDigits left, ← readDigits_paddedDigits right, digits]

end EntityId
end CatalogIngest
