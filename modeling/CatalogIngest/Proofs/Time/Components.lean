import CatalogIngest.Proofs.Number.Numeral
import CatalogIngest.Proofs.Time.Reader
import CatalogIngest.Time.Instant

/-!
# The components of a timestamp

Numbers, separators, years and offsets each take a piece off the front of a text. An offset is a
letter Z, or a sign with hours and minutes, and what is read back from an offset is what was
written.
-/

namespace CatalogIngest
namespace Time

open Number (isDigit readDigits?)
open Reader

/-! ## Numbers and marks -/

theorem isMark_expect
    {character : Char}
    (notDigit : isDigit character = false)
    (unpointed : character ≠ '.' ∧ character ≠ 'Z') :
    IsMark (expect character) := by
  intro text rest found
  cases text with
  | nil => nomatch found
  | cons first later =>
      rw [expect] at found
      split at found
      · next same =>
          cases found
          exact ⟨first, rfl, same ▸ notDigit, same ▸ unpointed, fun tail => if_pos same⟩
      · nomatch found

theorem isMark_dateSeparator : IsMark dateSeparator := by
  intro text rest found
  cases text with
  | nil => nomatch found
  | cons first later =>
      rw [dateSeparator] at found
      split at found
      · next separates =>
          cases found
          refine ⟨first, rfl, ?_, ?_, fun tail => if_pos separates⟩
          · rcases separates with rfl | rfl | rfl <;> decide
          · rcases separates with rfl | rfl | rfl <;> decide
      · nomatch found

theorem notBlank_of_isDigit
    {character : Char}
    (digital : isDigit character = true) :
    Text.isBlank character = false := by
  have every : ∀ value : Fin 10, Text.isBlank (Char.ofNat (48 + value)) = false := by decide
  rw [isDigit, Number.digitValue?, Option.isSome_ite] at digital
  have above : 48 ≤ character.toNat := digital.1
  have below : character.toNat ≤ 57 := digital.2
  have here := every ⟨character.toNat - 48, by omega⟩
  rwa [Nat.add_sub_cancel' above, Char.ofNat_toNat] at here

theorem unpointed_of_digits
    {digits : List Char}
    (digital : ∀ character ∈ digits, isDigit character = true) :
    Unpointed digits := by
  intro character member
  have isDigit := digital character member
  constructor
  · rintro rfl
    exact absurd isDigit (by decide)
  · rintro rfl
    exact absurd isDigit (by decide)

theorem shortNumber_eq_some_iff
    {places : Nat}
    {text rest : List Char}
    {value : Nat} :
    shortNumber places text = some (value, rest) ↔
      ∃ taken, 0 < taken ∧ takeDigits places 0 text = (value, taken, rest) := by
  rw [shortNumber]
  rcases takeDigits places 0 text with ⟨number, taken, behind⟩
  simp only [Option.ite_none_right_eq_some, Option.some.injEq, Prod.mk.injEq]
  constructor
  · rintro ⟨some, rfl, rfl⟩
    exact ⟨taken, some, rfl, rfl, rfl⟩
  · rintro ⟨_, some, rfl, rfl, rfl⟩
    exact ⟨some, rfl, rfl⟩

theorem fixedNumber_eq_some_iff
    {places : Nat}
    {text rest : List Char}
    {value : Nat} :
    fixedNumber places text = some (value, rest) ↔
      takeDigits places 0 text = (value, places, rest) := by
  rw [fixedNumber]
  rcases takeDigits places 0 text with ⟨number, taken, behind⟩
  simp only [Option.ite_none_right_eq_some, Option.some.injEq, Prod.mk.injEq]
  constructor
  · rintro ⟨rfl, rfl, rfl⟩
    exact ⟨rfl, rfl, rfl⟩
  · rintro ⟨rfl, rfl, rfl⟩
    exact ⟨rfl, rfl, rfl⟩

theorem takesFront_fixedNumber (places : Nat) :
    TakesFront EndsDigits (fixedNumber places : Reader Nat) := by
  intro text value rest found
  obtain ⟨digits, rfl, complete, within, written, -⟩ :=
    exists_of_takeDigits (fixedNumber_eq_some_iff.mp found)
  refine ⟨digits, rfl, unpointed_of_digits ((exists_readDigits?_iff 0).mp ⟨_, written⟩), ?_⟩
  intro tail _
  have taken : takeDigits places 0 (digits ++ tail) = (value, digits.length, tail) :=
    takeDigits_append written complete.le (.inl complete)
  rw [complete] at taken
  exact fixedNumber_eq_some_iff.mpr taken

/-- A short number is a row of digits, and any reader that takes that many finds the same number. -/
theorem exists_of_shortNumber
    {places : Nat}
    {text rest : List Char}
    {value : Nat}
    (found : shortNumber places text = some (value, rest)) :
    ∃ first later, text = first :: later ++ rest ∧
      (∀ character ∈ first :: later, isDigit character = true) ∧ later.length < places ∧
        ∀ limit tail, later.length < limit → EndsDigits tail →
          shortNumber limit (first :: later ++ tail) = some (value, tail) := by
  obtain ⟨taken, positive, took⟩ := shortNumber_eq_some_iff.mp found
  obtain ⟨digits, rfl, rfl, within, written, -⟩ := exists_of_takeDigits took
  obtain ⟨first, later, rfl⟩ := List.exists_cons_of_length_pos positive
  refine ⟨first, later, rfl, (exists_readDigits?_iff 0).mp ⟨_, written⟩, within, ?_⟩
  intro limit tail short ends
  exact shortNumber_eq_some_iff.mpr
    ⟨_, Nat.succ_pos _, takeDigits_append written (Nat.succ_le_of_lt short) (.inr ends)⟩

theorem takesFront_shortNumber (places : Nat) :
    TakesFront EndsDigits (shortNumber places : Reader Nat) := by
  intro text value rest found
  obtain ⟨first, later, rfl, digital, within, reads⟩ := exists_of_shortNumber found
  exact ⟨first :: later, rfl, unpointed_of_digits digital, fun tail => reads places tail within⟩

theorem trimStart_of_shortNumber
    {places : Nat}
    {text rest : List Char}
    {value : Nat}
    (found : shortNumber places text = some (value, rest)) :
    Text.trimStart text = text := by
  obtain ⟨first, later, rfl, digital, -⟩ := exists_of_shortNumber found
  exact Text.trimStart_cons_of_not_blank (notBlank_of_isDigit (digital first List.mem_cons_self)) _

theorem shortNumber_of_fixedNumber
    {places : Nat}
    (positive : 0 < places)
    {text rest : List Char}
    {value : Nat}
    (found : fixedNumber places text = some (value, rest)) :
    shortNumber places text = some (value, rest) :=
  shortNumber_eq_some_iff.mpr ⟨places, positive, fixedNumber_eq_some_iff.mp found⟩

/-! ## Years -/

/-- A year without blanks before it. -/
def signedYear (text : List Char) : Option (Int × List Char) :=
  match text with
  | '-' :: rest => (shortNumber rest.length rest).map fun found => (-(found.1 : Int), found.2)
  | '+' :: rest => (shortNumber rest.length rest).map fun found => ((found.1 : Int), found.2)
  | rest => (shortNumber 4 rest).map fun found => ((found.1 : Int), found.2)

theorem looseYear_eq (text : List Char) : looseYear text = signedYear (Text.trimStart text) := rfl

theorem signedYear_of_isDigit
    {first : Char}
    (digital : isDigit first = true)
    (later : List Char) :
    signedYear (first :: later) =
      (shortNumber 4 (first :: later)).map fun found => ((found.1 : Int), found.2) := by
  unfold signedYear
  split
  · next same =>
      cases (List.cons.inj same).1
      exact absurd digital (by decide)
  · next same =>
      cases (List.cons.inj same).1
      exact absurd digital (by decide)
  · rfl

/-- A year is a number with a sign and any number of digits, or one with at most four digits. -/
theorem exists_of_signedYear
    {text rest : List Char}
    {year : Int}
    (found : signedYear text = some (year, rest)) :
    ∃ first later, text = first :: later ++ rest ∧ Text.isBlank first = false ∧
      Unpointed (first :: later) ∧
        ∀ tail, EndsDigits tail → signedYear (first :: later ++ tail) = some (year, tail) := by
  have long : ∀ {rest text value}, shortNumber text.length text = some (value, rest) →
      ∃ digits, text = digits ++ rest ∧ Unpointed digits ∧ ∀ tail, EndsDigits tail →
        shortNumber (digits ++ tail).length (digits ++ tail) = some (value, tail) := by
    intro rest text value found
    obtain ⟨first, later, rfl, digital, -, reads⟩ := exists_of_shortNumber found
    refine ⟨first :: later, rfl, unpointed_of_digits digital, fun tail ends => ?_⟩
    have within : later.length < (first :: later ++ tail).length := by
      rw [List.length_append, List.length_cons]
      omega
    exact reads _ tail within ends
  unfold signedYear at found
  split at found
  · obtain ⟨⟨value, _⟩, inner, ⟨⟩⟩ := Option.map_eq_some_iff.mp found
    obtain ⟨digits, rfl, unpointed, reads⟩ := long inner
    refine ⟨'-', digits, rfl, by decide, List.forall_mem_cons.mpr ⟨by decide, unpointed⟩, ?_⟩
    intro tail ends
    exact Option.map_eq_some_iff.mpr ⟨_, reads tail ends, rfl⟩
  · obtain ⟨⟨value, _⟩, inner, ⟨⟩⟩ := Option.map_eq_some_iff.mp found
    obtain ⟨digits, rfl, unpointed, reads⟩ := long inner
    refine ⟨'+', digits, rfl, by decide, List.forall_mem_cons.mpr ⟨by decide, unpointed⟩, ?_⟩
    intro tail ends
    exact Option.map_eq_some_iff.mpr ⟨_, reads tail ends, rfl⟩
  · obtain ⟨⟨value, _⟩, inner, ⟨⟩⟩ := Option.map_eq_some_iff.mp found
    obtain ⟨first, later, rfl, digital, within, reads⟩ := exists_of_shortNumber inner
    have firstDigital := digital first List.mem_cons_self
    refine ⟨first, later, rfl, notBlank_of_isDigit firstDigital, unpointed_of_digits digital, ?_⟩
    intro tail ends
    rw [List.cons_append, signedYear_of_isDigit firstDigital]
    exact Option.map_eq_some_iff.mpr ⟨_, reads 4 tail within ends, rfl⟩

theorem takesFront_looseYear : TakesFront EndsDigits (looseYear : Reader Int) := by
  have takes : TakesFront EndsDigits (signedYear : Reader Int) := by
    intro text year rest found
    obtain ⟨first, later, rfl, -, unpointed, reads⟩ := exists_of_signedYear found
    exact ⟨first :: later, rfl, unpointed, reads⟩
  refine takes.afterBlanks fun text year rest found => ?_
  obtain ⟨first, later, rfl, shown, -⟩ := exists_of_signedYear found
  exact Text.trimStart_cons_of_not_blank shown _

theorem takesFront_looseNumber : TakesFront EndsDigits (looseNumber : Reader Nat) :=
  (takesFront_shortNumber 2).afterBlanks fun _ _ _ => trimStart_of_shortNumber

theorem isMark_dash : IsMark (expect '-') := isMark_expect (by decide) (by decide)

theorem isMark_colon : IsMark (expect ':') := isMark_expect (by decide) (by decide)

/-! ## Offsets -/

/-- The factor that a sign stands for. -/
def signFactor? (sign : Char) : Option Int :=
  if sign = '+' then some 1 else if sign = '-' ∨ sign = '−' then some (-1) else none

theorem signFactor?_cases
    {sign : Char}
    {factor : Int}
    (signed : signFactor? sign = some factor) :
    (sign = '+' ∧ factor = 1) ∨ (sign = '-' ∧ factor = -1) ∨ (sign = '−' ∧ factor = -1) := by
  unfold signFactor? at signed
  split at signed
  · next plus =>
      cases signed
      exact .inl ⟨plus, rfl⟩
  · split at signed
    · next minus =>
        cases signed
        exact .inr (minus.imp (fun same => ⟨same, rfl⟩) fun same => ⟨same, rfl⟩)
    · nomatch signed

/-- Behind a sign there are hours and minutes. -/
theorem offset_of_sign
    {sign : Char}
    {factor : Int}
    (signed : signFactor? sign = some factor)
    (text : List Char) :
    offset (sign :: text) =
      (fixedNumber 2 text).bind fun hours => (expect ':' hours.2).bind fun text =>
      (fixedNumber 2 text).bind fun minutes =>
        if hours.1 ≤ 23 ∧ minutes.1 ≤ 59 then
          some (factor * ((hours.1 : Int) * 60 + minutes.1), minutes.2)
        else none := by
  rcases signFactor?_cases signed with ⟨rfl, rfl⟩ | ⟨rfl, rfl⟩ | ⟨rfl, rfl⟩ <;> rfl

/-- An offset is a letter or begins with a sign. -/
theorem offset_cases
    {text rest : List Char}
    {minutes : Int}
    (found : offset text = some (minutes, rest)) :
    (text = 'Z' :: rest ∧ minutes = 0) ∨ (text = 'z' :: rest ∧ minutes = 0) ∨
      ∃ sign factor later, text = sign :: later ∧ signFactor? sign = some factor := by
  unfold offset at found
  split at found
  · cases found
    exact .inl ⟨rfl, rfl⟩
  · cases found
    exact .inr (.inl ⟨rfl, rfl⟩)
  · next sign later _ _ =>
      right
      right
      dsimp only at found
      split at found
      · next plus => exact ⟨sign, 1, later, rfl, if_pos plus⟩
      · next notPlus =>
          split at found
          · next minus =>
              exact ⟨sign, -1, later, rfl, by rw [signFactor?, if_neg notPlus, if_pos minus]⟩
          · nomatch found
  · nomatch found

theorem endsFraction_of_offset
    {text rest : List Char}
    {minutes : Int}
    (found : offset text = some (minutes, rest)) :
    EndsFraction text := by
  rcases offset_cases found with ⟨rfl, -⟩ | ⟨rfl, -⟩ | ⟨sign, factor, later, rfl, signed⟩
  · rintro _ ⟨⟩
    decide
  · rintro _ ⟨⟩
    decide
  · rintro _ ⟨⟩
    rcases signFactor?_cases signed with ⟨rfl, -⟩ | ⟨rfl, -⟩ | ⟨rfl, -⟩ <;> decide

/-- Behind the sign of an offset there are only digits and a colon. -/
theorem unpointed_of_offset
    {sign : Char}
    {factor : Int}
    (signed : signFactor? sign = some factor)
    {text : List Char}
    {minutes : Int}
    (found : offset (sign :: text) = some (minutes, [])) :
    Unpointed text := by
  rw [offset_of_sign signed] at found
  obtain ⟨⟨hours, text⟩, hoursFound, found⟩ := Option.bind_eq_some_iff.mp found
  obtain ⟨behind, colonFound, found⟩ := Option.bind_eq_some_iff.mp found
  obtain ⟨⟨count, rest⟩, minutesFound, found⟩ := Option.bind_eq_some_iff.mp found
  obtain ⟨-, ended⟩ := Option.ite_none_right_eq_some.mp found
  cases ended
  obtain ⟨first, rfl, firstUnpointed, -⟩ := takesFront_fixedNumber 2 hoursFound
  obtain ⟨colon, rfl, -, colonUnpointed, -⟩ := isMark_colon colonFound
  obtain ⟨second, rfl, secondUnpointed, -⟩ := takesFront_fixedNumber 2 minutesFound
  exact firstUnpointed.append (List.forall_mem_cons.mpr
    ⟨colonUnpointed, secondUnpointed.append (List.forall_mem_nil _)⟩)

theorem point_not_mem_of_offset
    {text : List Char}
    {minutes : Int}
    (found : offset text = some (minutes, [])) :
    '.' ∉ text := by
  rcases offset_cases found with ⟨rfl, -⟩ | ⟨rfl, -⟩ | ⟨sign, factor, later, rfl, signed⟩
  · decide
  · decide
  · intro member
    rcases List.mem_cons.mp member with rfl | inside
    · nomatch signed
    · exact (unpointed_of_offset signed found '.' inside).1 rfl

/-- An offset that ends with a letter Z is this letter. -/
theorem offset_concat_Z
    {front : List Char}
    {minutes : Int}
    (found : offset (front ++ ['Z']) = some (minutes, [])) :
    front = [] ∧ minutes = 0 := by
  rcases offset_cases found with ⟨same, rfl⟩ | ⟨same, -⟩ | ⟨sign, factor, later, same, signed⟩
  · exact ⟨List.append_cancel_right (show front ++ ['Z'] = [] ++ ['Z'] from same), rfl⟩
  · have last := congrArg List.getLast? same
    rw [List.getLast?_concat] at last
    exact absurd (Option.some.inj last) (by decide)
  · have member : 'Z' ∈ sign :: later := same ▸ List.mem_concat_self
    rw [same] at found
    rcases List.mem_cons.mp member with rfl | inside
    · nomatch signed
    · exact absurd rfl (unpointed_of_offset signed found 'Z' inside).2

/-- The text of an offset. -/
def offsetText (sign : Char) (hours minutes : Nat) : String :=
  String.singleton sign ++ zeroPadded 2 hours ++ ":" ++ zeroPadded 2 minutes

theorem toList_zeroPadded
    {number : Nat}
    (small : number < 100) :
    (zeroPadded 2 number).toList = [(number / 10).digitChar, (number % 10).digitChar] := by
  have every : ∀ value : Fin 100, (zeroPadded 2 value).toList =
      [((value : Nat) / 10).digitChar, ((value : Nat) % 10).digitChar] := by
    decide +kernel
  exact every ⟨number, small⟩

theorem fixedNumber_zeroPadded
    {number : Nat}
    (small : number < 100)
    (rest : List Char) :
    fixedNumber 2 ((zeroPadded 2 number).toList ++ rest) = some (number, rest) := by
  have tens := Number.digitValue?_digitChar (show number / 10 < 10 by omega)
  have units := Number.digitValue?_digitChar (show number % 10 < 10 by omega)
  have written : readDigits? 0 (zeroPadded 2 number).toList = some number := by
    rw [toList_zeroPadded small]
    simp only [readDigits?, tens, units, Option.some.injEq]
    omega
  have complete : (zeroPadded 2 number).toList.length = 2 := by
    rw [toList_zeroPadded small]
    rfl
  have taken : takeDigits 2 0 ((zeroPadded 2 number).toList ++ rest) =
      (number, (zeroPadded 2 number).toList.length, rest) :=
    takeDigits_append written complete.le (.inl complete)
  rw [complete] at taken
  exact fixedNumber_eq_some_iff.mpr taken

/-- An offset is read as it was written. -/
theorem offset_offsetText
    {sign : Char}
    {factor : Int}
    (signed : signFactor? sign = some factor)
    {hours minutes : Nat}
    (hoursSmall : hours < 24)
    (minutesSmall : minutes < 60) :
    offset (offsetText sign hours minutes).toList =
      some (factor * ((hours : Int) * 60 + minutes), []) := by
  have written : (offsetText sign hours minutes).toList =
      sign :: ((zeroPadded 2 hours).toList ++ ':' :: ((zeroPadded 2 minutes).toList ++ [])) := by
    simp [offsetText]
  rw [written, offset_of_sign signed, fixedNumber_zeroPadded (by omega), Option.bind_some]
  dsimp only
  rw [expect, if_pos rfl, Option.bind_some, fixedNumber_zeroPadded (by omega), Option.bind_some,
    if_pos ⟨by omega, by omega⟩]

end Time
end CatalogIngest
