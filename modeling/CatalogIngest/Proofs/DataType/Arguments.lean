import CatalogIngest.Proofs.DataType.Reading
import CatalogIngest.Proofs.Number.Numeral

/-!
# Arguments of a type

The arguments of a type are the pieces between commas that are not blank. Numbers in them have no case,
so they are read off the text as it was written. A blank first argument of a decimal is left out, and
the second one takes its place.
-/

namespace CatalogIngest

namespace Text

theorem splitOn_of_not_mem
    {separator : Char}
    {text : List Char}
    (absent : separator ∉ text) :
    splitOn separator text = [text] := by
  induction text with
  | nil => rfl
  | cons first rest inductionHypothesis =>
      rw [List.mem_cons, not_or] at absent
      rw [splitOn, if_neg (Ne.symm absent.1), inductionHypothesis absent.2]

/-- The first separator ends the first piece. -/
theorem splitOn_append_cons
    {separator : Char}
    {front : List Char}
    (absent : separator ∉ front)
    (rest : List Char) :
    splitOn separator (front ++ separator :: rest) = front :: splitOn separator rest := by
  induction front with
  | nil => rw [List.nil_append, splitOn, if_pos rfl]
  | cons first front inductionHypothesis =>
      rw [List.mem_cons, not_or] at absent
      rw [List.cons_append, splitOn, if_neg (Ne.symm absent.1), inductionHypothesis absent.2]

end Text

namespace DataType

open Text

theorem readWord16?_lower (text : List Char) : readWord16? (lower text) = readWord16? text := by
  rw [readWord16?, Number.readAtMost?_lower, readWord16?]

/-! ## Two arguments -/

theorem argumentList_pair
    {first second : List Char}
    (firstWhole : ',' ∉ first)
    (secondWhole : ',' ∉ second) :
    argumentList (first ++ ',' :: second) =
      [trim first, trim second].filter fun piece => !piece.isEmpty := by
  rw [argumentList, splitOn_append_cons firstWhole, splitOn_of_not_mem secondWhole]
  rfl

/-- The type that two arguments of a decimal make, each of them trimmed. -/
def decimalOf (first second : List Char) : DataType :=
  if first = [] then .decimal (readWord16? second) none
  else .decimal (readWord16? first) (readWord16? second)

/-- What is left of two arguments in lower case, when blank ones are left out. -/
theorem decimalOf_of_filter (first second : List Char) :
    let arguments := [lower first, lower second].filter fun piece => !piece.isEmpty
    DataType.decimal (arguments.head?.bind readWord16?) ((arguments[1]?).bind readWord16?) =
      decimalOf first second := by
  have shown : ∀ text, (lower text).isEmpty = text.isEmpty := by
    intro text
    rw [Bool.eq_iff_iff, List.isEmpty_iff, List.isEmpty_iff, lower_eq_nil_iff]
  have unread : readWord16? [] = none := by decide
  cases first with
  | nil =>
      cases second with
      | nil => rfl
      | cons character others => simp [decimalOf, shown, readWord16?_lower]
  | cons character others =>
      cases second with
      | nil => simp [decimalOf, shown, readWord16?_lower, unread]
      | cons next later => simp [decimalOf, shown, readWord16?_lower]

/-- A decimal with two arguments. -/
theorem read_decimal_pair
    {text : String}
    {name first second : List Char}
    (whole : text.toList = name ++ '(' :: (first ++ ',' :: second ++ [')']))
    (starts : trimStart name = name)
    (typeName : IsTypeName (lower name))
    (decimal : family? (lower name) = some .decimal)
    (firstWhole : ∀ character ∈ first, character ≠ ',' ∧ character ≠ ')')
    (secondWhole : ∀ character ∈ second, character ≠ ',' ∧ character ≠ ')') :
    read text = decimalOf (trim first) (trim second) := by
  have closedOnce : ')' ∉ first ++ ',' :: second := by
    rw [List.mem_append, List.mem_cons]
    rintro (inFirst | comma | inSecond)
    · exact (firstWhole _ inFirst).2 rfl
    · exact absurd comma (by decide)
    · exact (secondWhole _ inSecond).2 rfl
  have noComma : ∀ piece : List Char, (∀ character ∈ piece, character ≠ ',' ∧ character ≠ ')') →
      ',' ∉ lower piece := by
    intro piece pieceWhole
    rw [mem_lower_iff (by decide) (by decide)]
    exact fun member => (pieceWhole _ member).1 rfl
  rw [read_arguments whole starts typeName closedOnce, lower_append_cons first (by decide),
    argumentList_pair (noComma first firstWhole) (noComma second secondWhole)]
  simp only [Parts.type, decimal, trim_lower]
  exact decimalOf_of_filter (trim first) (trim second)

/-- The names of decimals. -/
def decimalSpellings : List String :=
  ["decimal", "numeric", "number", "bignumeric"]

theorem decimalSpellings_spec :
    ∀ spelling ∈ decimalSpellings,
      trimStart spelling.toList = spelling.toList ∧ isName (lower spelling.toList) = true ∧
        trim (lower spelling.toList) = lower spelling.toList ∧
          family? (lower spelling.toList) = some .decimal := by
  decide +kernel

/-- The arguments of a decimal with two arguments that have neither commas nor parentheses that close.
They are read by their positions, independently of each other, unless the first is blank: then the
second is the only one. -/
theorem decimal_arguments
    {spelling first second : String}
    (decimal : spelling ∈ decimalSpellings)
    (firstWhole : ∀ character ∈ first.toList, character ≠ ',' ∧ character ≠ ')')
    (secondWhole : ∀ character ∈ second.toList, character ≠ ',' ∧ character ≠ ')') :
    read (spelling ++ "(" ++ first ++ "," ++ second ++ ")") =
      if trim first.toList = [] then .decimal (readWord16? (trim second.toList)) none
      else .decimal (readWord16? (trim first.toList)) (readWord16? (trim second.toList)) := by
  obtain ⟨starts, isName, trimmed, family⟩ := decimalSpellings_spec spelling decimal
  have whole : (spelling ++ "(" ++ first ++ "," ++ second ++ ")").toList =
      spelling.toList ++ '(' :: (first.toList ++ ',' :: second.toList ++ [')']) := by
    simp [String.toList_append]
  exact read_decimal_pair whole starts ⟨isName, trimmed⟩ family firstWhole secondWhole

/-- A precision that is no number leaves the scale where it is. -/
theorem decimal_arguments_on_star :
    "number" ∈ decimalSpellings ∧
      (∀ character ∈ " *\n".toList, character ≠ ',' ∧ character ≠ ')') ∧
        (∀ character ∈ "+7\t".toList, character ≠ ',' ∧ character ≠ ')') ∧
          read ("number" ++ "(" ++ " *\n" ++ "," ++ "+7\t" ++ ")") = .decimal none (some 7) := by
  have decimal : "number" ∈ decimalSpellings := by decide
  have firstWhole : ∀ character ∈ " *\n".toList, character ≠ ',' ∧ character ≠ ')' := by simp
  have secondWhole : ∀ character ∈ "+7\t".toList, character ≠ ',' ∧ character ≠ ')' := by simp
  refine ⟨decimal, firstWhole, secondWhole, ?_⟩
  rw [decimal_arguments decimal firstWhole secondWhole]
  decide

/-- The only argument that is not blank is the precision, also behind a comma. -/
theorem blank_precision_takes_scale :
    read ("decimal" ++ "(" ++ "" ++ "," ++ "5" ++ ")") = .decimal (some 5) none ∧
      readWord16? (trim "".toList) = none ∧ readWord16? (trim "5".toList) = some 5 ∧
        read ("decimal" ++ "(" ++ "" ++ "," ++ "5" ++ ")") ≠
          .decimal (readWord16? (trim "".toList)) (readWord16? (trim "5".toList)) := by
  decide +kernel

end DataType
end CatalogIngest
