import CatalogIngest.Time.Timestamp
import CatalogIngest.Proofs.Text.Trimming
import Mathlib.Algebra.Order.Floor.Ring
import Mathlib.Data.Rat.Floor
import Mathlib.Tactic.Ring
import Mathlib.Tactic.Linarith

/-!
# Rows of digits and fractions of a second

A reader of digits takes the digits at the front of a text, up to its limit. The digits behind a
decimal point stand for a rational number below one. A fraction of a second is cut to whole
nanoseconds, however many digits it has, so the milliseconds in it are those of the exact number,
rounded down.
-/

namespace CatalogIngest
namespace Time

open Number (digitValue? isDigit readDigits?)

/-! ## Digits at the front of a text -/

/-- A text does not begin with a digit. -/
def EndsDigits (text : List Char) : Prop :=
  ∀ character ∈ text.head?, isDigit character = false

theorem digitValue?_of_not_isDigit
    {character : Char}
    (notDigit : isDigit character = false) :
    digitValue? character = none := by
  rwa [isDigit, Option.isSome_eq_false_iff, Option.isNone_iff_eq_none] at notDigit

/-- Digits read as a number, and only they do. -/
theorem exists_readDigits?_iff
    (value : Nat)
    {digits : List Char} :
    (∃ number, readDigits? value digits = some number) ↔
      ∀ character ∈ digits, isDigit character = true := by
  induction digits generalizing value with
  | nil => exact iff_of_true ⟨value, rfl⟩ (List.forall_mem_nil _)
  | cons first later inductionHypothesis =>
      rw [List.forall_mem_cons, readDigits?]
      cases valued : digitValue? first with
      | none => simp [isDigit, valued]
      | some digit => simp [isDigit, valued, inductionHypothesis]

/-- Reading stops at the limit or behind the last digit. -/
theorem takeDigits_append
    {digits rest : List Char}
    {places value number : Nat}
    (written : readDigits? value digits = some number)
    (within : digits.length ≤ places)
    (stops : digits.length = places ∨ EndsDigits rest) :
    takeDigits places value (digits ++ rest) = (number, digits.length, rest) := by
  induction digits generalizing places value with
  | nil =>
      cases written
      cases places with
      | zero => rfl
      | succ places =>
          cases rest with
          | nil => rfl
          | cons first rest =>
              have notDigit := stops.resolve_left (by simp) first rfl
              rw [List.nil_append, takeDigits, digitValue?_of_not_isDigit notDigit]
              rfl
  | cons first later inductionHypothesis =>
      cases places with
      | zero => nomatch within
      | succ places =>
          rw [readDigits?] at written
          rw [List.cons_append, takeDigits]
          cases valued : digitValue? first with
          | none =>
              rw [valued] at written
              nomatch written
          | some digit =>
              rw [valued] at written
              have shorter : later.length ≤ places := Nat.le_of_succ_le_succ within
              have stopsLater : later.length = places ∨ EndsDigits rest :=
                stops.imp_left Nat.succ.inj
              simp only [inductionHypothesis written shorter stopsLater, List.length_cons]

/-- What was taken off a text are digits. -/
theorem exists_of_takeDigits
    {text rest : List Char}
    {places value number taken : Nat}
    (found : takeDigits places value text = (number, taken, rest)) :
    ∃ digits, text = digits ++ rest ∧ digits.length = taken ∧ taken ≤ places ∧
      readDigits? value digits = some number ∧ (taken = places ∨ EndsDigits rest) := by
  induction text generalizing places value number taken with
  | nil =>
      cases places with
      | zero =>
          cases found
          exact ⟨[], rfl, rfl, le_rfl, rfl, .inl rfl⟩
      | succ places =>
          cases found
          exact ⟨[], rfl, rfl, Nat.zero_le _, rfl, .inr (fun _ none => nomatch none)⟩
  | cons first later inductionHypothesis =>
      cases places with
      | zero =>
          cases found
          exact ⟨[], rfl, rfl, le_rfl, rfl, .inl rfl⟩
      | succ places =>
          rw [takeDigits] at found
          cases valued : digitValue? first with
          | none =>
              rw [valued] at found
              cases found
              refine ⟨[], rfl, rfl, Nat.zero_le _, rfl, .inr ?_⟩
              rintro _ ⟨⟩
              rw [isDigit, valued]
              rfl
          | some digit =>
              rw [valued] at found
              rcases inner : takeDigits places (value * 10 + digit) later with
                ⟨reached, count, behind⟩
              simp only [inner, Prod.mk.injEq] at found
              obtain ⟨rfl, rfl, rfl⟩ := found
              obtain ⟨digits, rfl, rfl, within, written, stops⟩ := inductionHypothesis inner
              refine ⟨first :: digits, rfl, rfl, Nat.succ_le_succ within, ?_,
                stops.imp_left (congrArg Nat.succ)⟩
              rw [readDigits?, valued]
              exact written

/-! ## Decimal fractions -/

/-- The number below one that digits behind a decimal point stand for. -/
def decimalPart : List Char → ℚ
  | [] => 0
  | character :: digits => ((digitValue? character).getD 0 + decimalPart digits) / 10

theorem decimalPart_nonneg (digits : List Char) : 0 ≤ decimalPart digits := by
  induction digits with
  | nil => exact le_rfl
  | cons first later inductionHypothesis =>
      rw [decimalPart]
      positivity

theorem digitValue?_le_nine (character : Char) : (digitValue? character).getD 0 ≤ 9 := by
  unfold digitValue?
  split
  · next within =>
      have small : character.toNat ≤ 57 := within.2
      simp only [Option.getD_some]
      omega
  · exact Nat.zero_le _

theorem decimalPart_lt_one (digits : List Char) : decimalPart digits < 1 := by
  induction digits with
  | nil => exact zero_lt_one
  | cons first later inductionHypothesis =>
      have small : (((digitValue? first).getD 0 : Nat) : ℚ) ≤ 9 := by
        exact_mod_cast digitValue?_le_nine first
      rw [decimalPart, div_lt_one (by norm_num)]
      linarith

theorem decimalPart_append (front rest : List Char) :
    decimalPart (front ++ rest) =
      decimalPart front + decimalPart rest / 10 ^ front.length := by
  induction front with
  | nil => simp [decimalPart]
  | cons first front inductionHypothesis =>
      rw [List.cons_append, decimalPart, decimalPart, inductionHypothesis, List.length_cons,
        pow_succ]
      field_simp
      ring

/-- A row of digits is its number behind the point times a power of ten. -/
theorem eq_decimalPart_of_readDigits?
    {digits : List Char}
    {value number : Nat}
    (written : readDigits? value digits = some number) :
    (number : ℚ) = (value + decimalPart digits) * 10 ^ digits.length := by
  induction digits generalizing value with
  | nil =>
      cases written
      simp [decimalPart]
  | cons first later inductionHypothesis =>
      rw [readDigits?] at written
      cases valued : digitValue? first with
      | none =>
          rw [valued] at written
          nomatch written
      | some digit =>
          rw [valued] at written
          rw [inductionHypothesis written, decimalPart, valued, List.length_cons, pow_succ]
          push_cast [Option.getD_some]
          ring

/-- A whole number of millionths, with less than one more added, has as many whole units as
without. -/
theorem floor_millionths
    (count : Nat)
    {more : ℚ}
    (nonneg : 0 ≤ more)
    (small : more < 1) :
    ⌊(count + more) / 1000000⌋ = ((count / 1000000 : Nat) : Int) := by
  have below : (count / 1000000 * 1000000 : ℕ) ≤ count := Nat.div_mul_le_self _ _
  have above : count + 1 ≤ (count / 1000000 + 1) * 1000000 := by omega
  have belowRat : ((count / 1000000 : ℕ) : ℚ) * 1000000 ≤ count := by exact_mod_cast below
  have aboveRat : (count : ℚ) + 1 ≤ (((count / 1000000 : ℕ) : ℚ) + 1) * 1000000 := by
    exact_mod_cast above
  rw [Int.floor_eq_iff, Int.cast_natCast, le_div_iff₀ (by norm_num), div_lt_iff₀ (by norm_num)]
  constructor
  · linarith
  · linarith

/-! ## Fractions of a second -/

/-- Digits behind a point, if there are any. -/
def pointed : List Char → List Char
  | [] => []
  | first :: later => '.' :: first :: later

/-- A text begins neither with a digit nor with a point. -/
def EndsFraction (text : List Char) : Prop :=
  ∀ character ∈ text.head?, isDigit character = false ∧ character ≠ '.'

theorem endsDigits_pointed_append
    (digits : List Char)
    {ending : List Char}
    (ends : EndsFraction ending) :
    EndsDigits (pointed digits ++ ending) := by
  cases digits with
  | nil => exact fun character first => (ends character first).1
  | cons first later =>
      rintro _ ⟨⟩
      rfl

/-- A row of digits is taken up to the limit, and the rest of it stays. -/
theorem exists_takeDigits
    {digits ending : List Char}
    (digital : ∀ character ∈ digits, isDigit character = true)
    (ends : EndsDigits ending)
    (places : Nat) :
    ∃ number, readDigits? 0 (digits.take places) = some number ∧
      takeDigits places 0 (digits ++ ending) =
        (number, (digits.take places).length, digits.drop places ++ ending) := by
  obtain ⟨number, written⟩ := (exists_readDigits?_iff 0).mpr
    fun character member => digital character (List.mem_of_mem_take member)
  have stops :
      (digits.take places).length = places ∨ EndsDigits (digits.drop places ++ ending) := by
    rcases Nat.le_total places digits.length with long | short
    · exact .inl (List.length_take_of_le long)
    · right
      rw [List.drop_eq_nil_of_le short]
      exact ends
  refine ⟨number, written, ?_⟩
  have taken := takeDigits_append written (List.length_take_le places digits) stops
  rwa [← List.append_assoc, List.take_append_drop] at taken

theorem dropWhile_isDigit_append
    {digits ending : List Char}
    (digital : ∀ character ∈ digits, isDigit character = true)
    (ends : EndsDigits ending) :
    (digits ++ ending).dropWhile isDigit = ending := by
  rw [List.dropWhile_append_of_pos digital]
  cases ending with
  | nil => rfl
  | cons first later => exact List.dropWhile_cons_of_neg (by simp [ends first rfl])

/-- Nine digits of a fraction decide on its milliseconds. -/
theorem floor_nine_digits
    {digits : List Char}
    {number : Nat}
    (written : readDigits? 0 (digits.take 9) = some number) :
    ((number * 10 ^ (9 - (digits.take 9).length) / 1000000 : Nat) : Int) =
      ⌊1000 * decimalPart digits⌋ := by
  have short : (digits.take 9).length ≤ 9 := List.length_take_le 9 digits
  have scale : (10 : ℚ) ^ (digits.take 9).length * 10 ^ (9 - (digits.take 9).length) = 10 ^ 9 := by
    rw [← pow_add, Nat.add_sub_cancel' short]
  have kept : ((number * 10 ^ (9 - (digits.take 9).length) : Nat) : ℚ) =
      decimalPart (digits.take 9) * 10 ^ 9 := by
    rw [Nat.cast_mul, Nat.cast_pow, Nat.cast_ofNat, eq_decimalPart_of_readDigits? written,
      Nat.cast_zero, zero_add, mul_assoc, scale]
  have dropped : decimalPart (digits.drop 9) / 10 ^ (digits.take 9).length * 10 ^ 9 =
      decimalPart (digits.drop 9) := by
    rcases Nat.le_total 9 digits.length with long | few
    · rw [List.length_take_of_le long]
      exact div_mul_cancel₀ _ (by norm_num)
    · rw [List.drop_eq_nil_of_le few]
      simp [decimalPart]
  have whole : 1000 * decimalPart digits =
      ((number * 10 ^ (9 - (digits.take 9).length) : Nat) + decimalPart (digits.drop 9)) /
        1000000 := by
    conv_lhs => rw [← List.take_append_drop 9 digits, decimalPart_append]
    rw [kept, eq_div_iff (by norm_num)]
    linarith
  rw [whole, floor_millionths _ (decimalPart_nonneg _) (decimalPart_lt_one _)]

/-- A fraction is read as nanoseconds whose milliseconds are those of the exact fraction, rounded
down. -/
theorem exists_fraction_pointed
    {digits ending : List Char}
    (digital : ∀ character ∈ digits, isDigit character = true)
    (ends : EndsFraction ending) :
    ∃ nanosecond, fraction (pointed digits ++ ending) = some (nanosecond, ending) ∧
      ((nanosecond / 1000000 : Nat) : Int) = ⌊1000 * decimalPart digits⌋ := by
  have endsDigits : EndsDigits ending := fun character head => (ends character head).1
  cases digits with
  | nil =>
      refine ⟨0, ?_, by simp [decimalPart]⟩
      cases ending with
      | nil => rfl
      | cons first later =>
          rw [pointed, List.nil_append]
          unfold fraction
          split
          · next behind same => exact absurd (List.cons.inj same).1 (ends first rfl).2
          · rfl
  | cons first later =>
      obtain ⟨number, written, taken⟩ := exists_takeDigits digital endsDigits 9
      have droppedDigital : ∀ character ∈ (first :: later).drop 9, isDigit character = true :=
        fun character member => digital character (List.mem_of_mem_drop member)
      refine ⟨_, ?_, floor_nine_digits written⟩
      change fraction ('.' :: (first :: later ++ ending)) = _
      rw [fraction]
      simp only [taken, dropWhile_isDigit_append droppedDigital endsDigits, List.take_succ_cons,
        List.length_cons, Nat.succ_ne_zero, if_false]
      rfl

/-- What is read as a fraction is one. -/
theorem exists_of_fraction
    {text ending : List Char}
    {nanosecond : Nat}
    (found : fraction text = some (nanosecond, ending)) :
    ∃ digits, text = pointed digits ++ ending ∧
      ∀ character ∈ digits, isDigit character = true := by
  unfold fraction at found
  split at found
  · next behind =>
      rcases taken : takeDigits 9 0 behind with ⟨number, count, rest⟩
      simp only [taken] at found
      split at found
      · nomatch found
      · next some =>
          cases found
          obtain ⟨digits, rfl, rfl, -, written, -⟩ := exists_of_takeDigits taken
          refine ⟨digits ++ rest.takeWhile isDigit, ?_, ?_⟩
          · obtain ⟨first, later, same⟩ := List.exists_cons_of_length_pos (Nat.pos_of_ne_zero some)
            rw [same]
            simp [pointed, List.takeWhile_append_dropWhile]
          · rw [List.forall_mem_append]
            exact ⟨(exists_readDigits?_iff 0).mp ⟨_, written⟩,
              fun character member => List.mem_takeWhile_imp member⟩
  · cases found
    exact ⟨[], rfl, List.forall_mem_nil _⟩

end Time
end CatalogIngest
