import CatalogIngest.Proofs.DataType.Arguments

/-!
# Reading the text of a type

The text that shows a type reads back as the type, except that a scale without a precision is not
shown and so is lost. Such a scale may stand at any depth of nested arrays.
-/

namespace CatalogIngest

namespace Number

/-! ## Numerals as arguments -/

theorem shown_of_mem_digits
    {number : Nat}
    {character : Char}
    (member : character ∈ digits number) :
    Text.isBlank character = false ∧ character ≠ ',' ∧ character ≠ ')' := by
  have isDigit := isDigit_of_mem_digits member
  have every : ∀ code : Fin 58, 48 ≤ (code : Nat) → Text.isBlank (Char.ofNat code) = false ∧
      Char.ofNat code ≠ ',' ∧ Char.ofNat code ≠ ')' := by
    decide
  have here := every ⟨character.toNat, by omega⟩ isDigit.1
  rw [Char.ofNat_toNat] at here
  exact here

theorem trim_digits (number : Nat) : Text.trim (digits number) = digits number :=
  Text.trim_of_shown fun _ member => (shown_of_mem_digits member).1

theorem lower_digits (number : Nat) : Text.lower (digits number) = digits number :=
  Text.lower_of_settled fun character member => by
    have isDigit := isDigit_of_mem_digits member
    exact Text.isSettled_of_early (by omega)

end Number

namespace DataType

open Text

theorem argumentList_digits (number : Nat) :
    argumentList (Number.digits number) = [Number.digits number] := by
  have whole : ',' ∉ Number.digits number := fun member =>
    (Number.shown_of_mem_digits member).2.1 rfl
  simp [argumentList, splitOn_of_not_mem whole, Number.trim_digits, Number.digits_ne_nil]

theorem readWord16?_digits (word : UInt16) :
    readWord16? (Number.digits word.toNat) = some word := by
  have within : word.toNat ≤ 65535 := Nat.le_of_lt_succ word.toNat_lt
  rw [readWord16?, Number.readAtMost?_digits within, Option.map_some, UInt16.ofNat_toNat]

theorem readWord32?_digits (word : UInt32) :
    readWord32? (Number.digits word.toNat) = some word := by
  have within : word.toNat ≤ 4294967295 := Nat.le_of_lt_succ word.toNat_lt
  rw [readWord32?, Number.readAtMost?_digits within, Option.map_some, UInt32.ofNat_toNat]

/-- A name with one number in parentheses. -/
theorem read_number
    {name : String}
    (starts : trimStart name.toList = name.toList)
    (typeName : IsTypeName (lower name.toList))
    (number : Nat) :
    read (name ++ "(" ++ Number.decimal number ++ ")") =
      Parts.type (fun element => read (String.ofList element))
        ⟨lower name.toList, [Number.digits number], none⟩ := by
  have whole : (name ++ "(" ++ Number.decimal number ++ ")").toList =
      name.toList ++ '(' :: (Number.digits number ++ [')']) := by
    simp [Number.decimal]
  have closedOnce : ')' ∉ Number.digits number := fun member =>
    (Number.shown_of_mem_digits member).2.2 rfl
  rw [read_arguments whole starts typeName closedOnce, Number.lower_digits, argumentList_digits]

/-! ## The text of a type -/

/-- Somewhere in a type a decimal has a scale but no precision. -/
def hasLoneScale : DataType → Bool
  | .decimal none (some _) => true
  | .array element => element.hasLoneScale
  | _ => false

/-- A type with every scale left out that has no precision. -/
def withoutLoneScale : DataType → DataType
  | .decimal none _ => .decimal none none
  | .array element => .array element.withoutLoneScale
  | type => type

theorem withoutLoneScale_eq_self_iff (type : DataType) :
    type.withoutLoneScale = type ↔ type.hasLoneScale = false := by
  induction type with
  | decimal precision scale =>
      cases precision <;> cases scale <;> simp [withoutLoneScale, hasLoneScale]
  | array element inductionHypothesis =>
      rw [withoutLoneScale, hasLoneScale, ← inductionHypothesis, array.injEq]
  | _ => simp [withoutLoneScale, hasLoneScale]

theorem newline_not_mem_display (type : DataType) : '\n' ∉ type.display.toList := by
  have inDigits : ∀ number, '\n' ∉ (Number.decimal number).toList := by
    intro number member
    rw [Number.decimal, String.toList_ofList] at member
    exact absurd (Number.isDigit_of_mem_digits member).1 (by decide)
  have inLength : ∀ (name : String) (length : Option UInt32), '\n' ∉ name.toList →
      '\n' ∉ (withLength name length).toList := by
    intro name length absent
    cases length with
    | none => exact absent
    | some length => simp [withLength, absent, inDigits]
  induction type with
  | decimal precision scale =>
      cases precision <;> cases scale <;> simp [display, word16Text, inDigits]
  | varchar length => exact inLength _ length (by decide)
  | char length => exact inLength _ length (by decide)
  | array element inductionHypothesis => simp [display, inductionHypothesis]
  | _ => decide

/-- A decimal reads back, except that a scale without a precision is lost. -/
theorem read_display_decimal (precision scale : Option UInt16) :
    read (decimal precision scale).display = (decimal precision scale).withoutLoneScale := by
  have starts : trimStart "DECIMAL".toList = "DECIMAL".toList := by decide
  have typeName : IsTypeName (lower "DECIMAL".toList) := ⟨by decide, by decide⟩
  have family : family? (lower "DECIMAL".toList) = some .decimal := by decide +kernel
  cases precision with
  | none =>
      have bare : read "DECIMAL" = .decimal none none := by decide +kernel
      exact bare
  | some precision =>
      cases scale with
      | none =>
          refine (read_number starts typeName precision.toNat).trans ?_
          simp only [Parts.type, family]
          simp [readWord16?_digits, withoutLoneScale]
      | some scale =>
          have whole : (display (decimal (some precision) (some scale))).toList =
              "DECIMAL".toList ++ '(' ::
                (Number.digits precision.toNat ++ ',' :: (' ' :: Number.digits scale.toNat) ++
                  [')']) := by
            simp [display, word16Text, Number.decimal]
          have trimmed : trim (' ' :: Number.digits scale.toNat) = Number.digits scale.toNat := by
            have spaced : ∀ character ∈ [' '], isBlank character = true :=
              List.forall_mem_singleton.mpr (by decide)
            have padded := trim_surround spaced (Number.digits scale.toNat) (List.forall_mem_nil _)
            rw [List.append_nil, Number.trim_digits] at padded
            exact padded
          rw [read_decimal_pair whole starts typeName family, trimmed, Number.trim_digits, decimalOf,
            if_neg (Number.digits_ne_nil _), readWord16?_digits, readWord16?_digits]
          · rfl
          · exact fun character member => (Number.shown_of_mem_digits member).2
          · refine List.forall_mem_cons.mpr ⟨by decide, ?_⟩
            exact fun character member => (Number.shown_of_mem_digits member).2

/-- A length reads back under each name that takes one. -/
theorem read_withLength
    {name : String}
    {make : Option UInt32 → DataType}
    (starts : trimStart name.toList = name.toList)
    (typeName : IsTypeName (lower name.toList))
    (takesLength : ∀ readElement arguments,
      Parts.type readElement ⟨lower name.toList, arguments, none⟩ =
        make (lengthArgument arguments))
    (bare : read name = make none)
    (length : Option UInt32) :
    read (withLength name length) = make length := by
  cases length with
  | none => exact bare
  | some length =>
      refine (read_number starts typeName length.toNat).trans ((takesLength _ _).trans ?_)
      simp [lengthArgument, readWord32?_digits]

/-- The text of a type reads as the type, without the scales that are not shown. -/
theorem read_display (type : DataType) : read type.display = type.withoutLoneScale := by
  induction type with
  | decimal precision scale => exact read_display_decimal precision scale
  | varchar length =>
      have family : family? (lower "VARCHAR".toList) = some .varchar := by decide +kernel
      refine read_withLength (by decide) ⟨by decide, by decide⟩ ?_ (by decide +kernel) length
      intro readElement arguments
      simp only [Parts.type, family]
  | char length =>
      have family : family? (lower "CHAR".toList) = some .char := by decide +kernel
      refine read_withLength (by decide) ⟨by decide, by decide⟩ ?_ (by decide +kernel) length
      intro readElement arguments
      simp only [Parts.type, family]
  | array element inductionHypothesis =>
      rw [display, read_bracketed element.newline_not_mem_display, inductionHypothesis,
        withoutLoneScale]
  | _ => decide +kernel

/-- The text of a type reads back as the type exactly if no decimal in it, at any depth, has a scale
but no precision. -/
theorem read_display_eq_self_iff (type : DataType) :
    read type.display = type ↔ type.hasLoneScale = false := by
  rw [read_display, withoutLoneScale_eq_self_iff]

end DataType
end CatalogIngest
