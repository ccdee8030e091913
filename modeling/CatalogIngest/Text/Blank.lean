import CatalogIngest.Text.CodeRange

/-!
# Blank characters and trimming

A character is blank when it has the Unicode property `White_Space`. Trimming removes blanks from
the ends of a text and never touches its inside.
-/

namespace CatalogIngest
namespace Text

/-- The ten ranges of the Unicode property `White_Space`. -/
def blankRanges : List CodeRange :=
  CodeRange.ofPairs
    [(9, 13), (32, 32), (133, 133), (160, 160), (5760, 5760), (8192, 8202), (8232, 8233),
      (8239, 8239), (8287, 8287), (12288, 12288)]

/-- Whether a character has the property `White_Space`. -/
def isBlank (character : Char) : Bool :=
  CodeRange.covers blankRanges character.toNat

/-- Remove leading blanks. -/
def trimStart (text : List Char) : List Char :=
  text.dropWhile isBlank

/-- Remove trailing blanks. -/
def trimEnd (text : List Char) : List Char :=
  (text.reverse.dropWhile isBlank).reverse

/-- Remove blanks at both ends. -/
def trim (text : List Char) : List Char :=
  trimEnd (trimStart text)

@[simp] theorem trimStart_nil : trimStart [] = [] := rfl

@[simp] theorem trimEnd_nil : trimEnd [] = [] := rfl

@[simp] theorem trim_nil : trim [] = [] := rfl

theorem length_dropWhile_le {α : Type} (keep : α → Bool) (items : List α) :
    (items.dropWhile keep).length ≤ items.length :=
  (List.dropWhile_sublist keep).length_le

theorem length_trimStart_le (text : List Char) : (trimStart text).length ≤ text.length :=
  length_dropWhile_le isBlank text

theorem length_trimEnd_le (text : List Char) : (trimEnd text).length ≤ text.length := by
  have bound := length_dropWhile_le isBlank text.reverse
  simpa [trimEnd] using bound

/-- Trimming never lengthens a text. -/
theorem length_trim_le (text : List Char) : (trim text).length ≤ text.length :=
  Nat.le_trans (length_trimEnd_le _) (length_trimStart_le text)

end Text
end CatalogIngest
