/-!
# Cutting texts

Cutting a text at separators, at the first occurrence of a word, and at a fixed start or end.
-/

namespace CatalogIngest
namespace Text

/-- The text after a fixed beginning, if the text begins so. -/
def afterStart? : List Char → List Char → Option (List Char)
  | [], text => some text
  | _ :: _, [] => none
  | expected :: start, actual :: text =>
      if expected = actual then afterStart? start text else none

/-- The text before a fixed ending, if the text ends so. -/
def beforeEnd? (ending text : List Char) : Option (List Char) :=
  (afterStart? ending.reverse text.reverse).map List.reverse

/-- The parts before and after the first occurrence of a word. -/
def splitAt? (word : List Char) : List Char → Option (List Char × List Char)
  | [] => (afterStart? word []).map fun rest => ([], rest)
  | character :: text =>
      match afterStart? word (character :: text) with
      | some rest => some ([], rest)
      | none => (splitAt? word text).map fun parts => (character :: parts.1, parts.2)

/-- The pieces between single-character separators; there is always at least one. -/
def splitOn (separator : Char) : List Char → List (List Char)
  | [] => [[]]
  | character :: text =>
      if character = separator then [] :: splitOn separator text
      else
        match splitOn separator text with
        | [] => [[character]]
        | piece :: pieces => (character :: piece) :: pieces

@[simp] theorem afterStart?_nil (text : List Char) : afterStart? [] text = some text := by
  cases text <;> rfl

theorem afterStart?_eq_some {start text rest : List Char} :
    afterStart? start text = some rest ↔ text = start ++ rest := by
  induction start generalizing text with
  | nil => simp [eq_comm]
  | cons expected start ih =>
    cases text with
    | nil => simp [afterStart?]
    | cons actual text =>
      by_cases same : expected = actual
      · simp [afterStart?, same, ih]
      · simp [afterStart?, same, Ne.symm same]

theorem beforeEnd?_eq_some {ending text rest : List Char} :
    beforeEnd? ending text = some rest ↔ text = rest ++ ending := by
  simp only [beforeEnd?, Option.map_eq_some_iff, afterStart?_eq_some]
  constructor
  · rintro ⟨front, reversed, rfl⟩
    have := congrArg List.reverse reversed
    simpa using this
  · rintro rfl
    exact ⟨rest.reverse, by simp⟩

/-- A cut at a word loses nothing. -/
theorem eq_of_splitAt?_eq_some {word text front rest : List Char}
    (found : splitAt? word text = some (front, rest)) : text = front ++ word ++ rest := by
  induction text generalizing front with
  | nil =>
    simp only [splitAt?, Option.map_eq_some_iff] at found
    obtain ⟨remaining, matched, same⟩ := found
    cases same
    exact afterStart?_eq_some.1 matched
  | cons character text ih =>
    simp only [splitAt?] at found
    split at found
    · next remaining matched =>
      cases found
      exact afterStart?_eq_some.1 matched
    · simp only [Option.map_eq_some_iff] at found
      obtain ⟨parts, later, same⟩ := found
      cases same
      simp [ih later]

theorem splitOn_ne_nil (separator : Char) (text : List Char) : splitOn separator text ≠ [] := by
  cases text with
  | nil => simp [splitOn]
  | cons character text =>
    simp only [splitOn]
    split
    · simp
    · split <;> simp

end Text
end CatalogIngest
