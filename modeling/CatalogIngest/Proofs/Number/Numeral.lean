import CatalogIngest.Number.Reading
import CatalogIngest.Proofs.Text.LowerCase

/-!
# Numerals

The decimal numeral of a number reads back as the number. Whatever text a number is read from, its
characters come before the capitals, so the text may as well be lower-cased first.
-/

namespace CatalogIngest
namespace Number

/-! ## Reading back what is written -/

theorem readDigits?_append
    (value : Nat)
    (front rest : List Char) :
    readDigits? value (front ++ rest) =
      (readDigits? value front).bind fun reached => readDigits? reached rest := by
  induction front generalizing value with
  | nil => rfl
  | cons first front inductionHypothesis =>
      rw [List.cons_append, readDigits?, readDigits?]
      cases digitValue? first with
      | none => rfl
      | some digit => exact inductionHypothesis (value * 10 + digit)

theorem digitValue?_digitChar
    {value : Nat}
    (isDigit : value < 10) :
    digitValue? value.digitChar = some value := by
  have every : ∀ digit : Fin 10, digitValue? (digit : Nat).digitChar = some (digit : Nat) := by
    decide
  exact every ⟨value, isDigit⟩

/-- A numeral writes its number. -/
theorem readDigits?_digits (number : Nat) : readDigits? 0 (digits number) = some number := by
  unfold digits
  induction number using Nat.strongRecOn with
  | ind number inductionHypothesis =>
      by_cases small : number < 10
      · rw [Nat.toDigits_of_lt_base small]
        simp [readDigits?, digitValue?_digitChar small]
      · have front := inductionHypothesis (number / 10) (by omega)
        have last := digitValue?_digitChar (Nat.mod_lt number (by decide : 0 < 10))
        rw [Nat.toDigits_of_base_le (by decide) (Nat.le_of_not_lt small), readDigits?_append, front]
        simp only [Option.bind_some, readDigits?, last, Option.some.injEq]
        omega

theorem digits_ne_nil (number : Nat) : digits number ≠ [] :=
  Nat.toDigits_ne_nil

theorem isDigit_of_mem_digits
    {number : Nat}
    {character : Char}
    (member : character ∈ digits number) :
    48 ≤ character.toNat ∧ character.toNat ≤ 57 := by
  have isDigit := Nat.isDigit_of_mem_toDigits (by decide) (by decide) member
  rw [Char.isDigit, Bool.and_eq_true, decide_eq_true_eq, decide_eq_true_eq] at isDigit
  exact isDigit

/-- A numeral reads back if its number is not beyond the limit. -/
theorem readAtMost?_digits
    {limit number : Nat}
    (within : number ≤ limit) :
    readAtMost? limit (digits number) = some number := by
  have written := readDigits?_digits number
  cases numeral : digits number with
  | nil => exact absurd numeral (digits_ne_nil number)
  | cons first rest =>
      have notSign : first ≠ '+' := by
        rintro rfl
        have isDigit := isDigit_of_mem_digits (numeral ▸ List.mem_cons_self)
        exact absurd isDigit.1 (by decide)
      rw [numeral] at written
      unfold readAtMost?
      split
      · next same => exact absurd (List.cons.inj same).1 notSign
      · change (readDigits? 0 (first :: rest)).filter _ = some number
        rw [written]
        simp [within]

/-! ## Numerals have no case -/

/-- Digits come before the capitals. -/
theorem early_of_readDigits?
    {value number : Nat}
    {digits : List Char}
    (found : readDigits? value digits = some number) :
    ∀ digit ∈ digits, digit.toNat < 65 := by
  induction digits generalizing value with
  | nil => exact List.forall_mem_nil _
  | cons first rest inductionHypothesis =>
      rw [readDigits?] at found
      split at found
      · next digit isDigit =>
          refine List.forall_mem_cons.mpr ⟨?_, inductionHypothesis found⟩
          unfold digitValue? at isDigit
          split at isDigit
          · next within =>
              have small : first.toNat ≤ 57 := within.2
              omega
          · nomatch isDigit
      · nomatch found

theorem early_of_readNatural?
    {number : Nat}
    {digits : List Char}
    (found : readNatural? digits = some number) :
    ∀ digit ∈ digits, digit.toNat < 65 := by
  cases digits with
  | nil => nomatch found
  | cons first rest => exact early_of_readDigits? found

theorem early_of_readAtMost?
    {limit number : Nat}
    {text : List Char}
    (found : readAtMost? limit text = some number) :
    ∀ character ∈ text, character.toNat < 65 := by
  unfold readAtMost? at found
  have written := (Option.filter_eq_some_iff.mp found).1
  split at written
  · exact List.forall_mem_cons.mpr ⟨by decide, early_of_readNatural? written⟩
  · exact early_of_readNatural? written

/-- Lower-casing a text does not change the number that is read from it. -/
theorem readAtMost?_lower
    (limit : Nat)
    (text : List Char) :
    readAtMost? limit (Text.lower text) = readAtMost? limit text := by
  by_cases same : Text.lower text = text
  · rw [same]
  · have unread : readAtMost? limit text = none := by
      rw [Option.eq_none_iff_forall_ne_some]
      intro number found
      exact same (Text.lower_of_settled fun character member =>
        Text.isSettled_of_early (early_of_readAtMost? found character member))
    have unreadLower : readAtMost? limit (Text.lower text) = none := by
      rw [Option.eq_none_iff_forall_ne_some]
      intro number found
      refine same (Text.lower_eq_self_of_early fun character member => ?_)
      have early := early_of_readAtMost? found character member
      omega
    rw [unread, unreadLower]

end Number
end CatalogIngest
