import CatalogIngest.Text.Split
import Mathlib.Data.List.Infix

/-!
# Cutting at the first occurrence of a word

A text is cut at a word exactly if the word occurs in it, and the cut is at the first occurrence: the
word does not occur in what comes before the cut, not even together with all of the word but its last
character.
-/

namespace CatalogIngest
namespace Text

theorem afterStart?_eq_none_iff
    {start text : List Char} :
    afterStart? start text = none ↔ ¬ start <+: text := by
  rw [Option.eq_none_iff_forall_not_mem]
  constructor
  · rintro absent ⟨rest, rfl⟩
    exact absent rest (afterStart?_eq_some.mpr rfl)
  · intro absent rest found
    exact absent ⟨rest, (afterStart?_eq_some.mp found).symm⟩

/-- A text that does not begin with a word is cut behind its first character. -/
theorem splitAt?_cons
    {word later : List Char}
    {character : Char}
    (notHere : ¬ word <+: character :: later) :
    splitAt? word (character :: later) =
      (splitAt? word later).map fun parts => (character :: parts.1, parts.2) := by
  rw [splitAt?, afterStart?_eq_none_iff.mpr notHere]

variable
  {word : List Char}
  (nonempty : word ≠ [])

include nonempty

theorem not_infix_dropLast : ¬ word <:+: word.dropLast := by
  intro inside
  have shorter := inside.length_le
  have positive := List.length_pos_iff.mpr nonempty
  rw [List.length_dropLast] at shorter
  omega

/-- Whether a word begins a text is settled before its last place that lies behind the first. -/
theorem prefix_append_iff
    (first : Char)
    (front rest : List Char) :
    word <+: first :: front ++ word ++ rest ↔ word <+: first :: front ++ word.dropLast := by
  have shorter : first :: front ++ word.dropLast <+: first :: front ++ word ++ rest := by
    rw [List.append_assoc]
    exact (List.prefix_append_right_inj _).mpr
      ((List.dropLast_prefix word).trans (List.prefix_append word rest))
  refine ⟨fun begins => List.prefix_of_prefix_length_le begins shorter ?_, (·.trans shorter)⟩
  have positive := List.length_pos_iff.mpr nonempty
  simp only [List.length_append, List.length_cons, List.length_dropLast]
  omega

/-- A text that begins with a word is cut there. -/
theorem splitAt?_eq_nil_iff
    {text rest : List Char} :
    splitAt? word text = some ([], rest) ↔ text = word ++ rest := by
  constructor
  · exact eq_of_splitAt?_eq_some
  · rintro rfl
    cases word with
    | nil => exact absurd rfl nonempty
    | cons first others =>
        have begins : afterStart? (first :: others) (first :: (others ++ rest)) = some rest :=
          afterStart?_eq_some.mpr rfl
        rw [List.cons_append, splitAt?, begins]

/-- The parts of a cut are what comes before and after the first occurrence. -/
theorem splitAt?_eq_some_iff
    {text front rest : List Char} :
    splitAt? word text = some (front, rest) ↔
      text = front ++ word ++ rest ∧ ¬ word <:+: front ++ word.dropLast := by
  induction front generalizing text with
  | nil =>
      rw [splitAt?_eq_nil_iff nonempty, List.nil_append]
      exact (and_iff_left (not_infix_dropLast nonempty)).symm
  | cons first front inductionHypothesis =>
      have settled := prefix_append_iff nonempty first front rest
      simp only [List.cons_append] at settled ⊢
      rw [List.infix_cons_iff, not_or, ← settled]
      by_cases here : word <+: text
      · have elsewhere : splitAt? word text ≠ some (first :: front, rest) := by
          obtain ⟨remaining, rfl⟩ := here
          rw [(splitAt?_eq_nil_iff nonempty).mpr rfl]
          simp
        refine iff_of_false elsewhere ?_
        rintro ⟨rfl, notHere, -⟩
        exact notHere here
      · cases text with
        | nil => simp [splitAt?, afterStart?_eq_none_iff.mpr here]
        | cons character later =>
            have behind : splitAt? word later = some (front, rest) ↔
                later = front ++ word ++ rest ∧ ¬ word <:+: front ++ word.dropLast :=
              inductionHypothesis
            rw [splitAt?_cons here, Option.map_eq_some_iff]
            constructor
            · rintro ⟨parts, found, same⟩
              obtain ⟨rfl, sameParts⟩ := List.cons.inj (Prod.mk.inj same).1
              obtain ⟨rfl, absent⟩ := behind.mp (by rw [found, ← sameParts, ← (Prod.mk.inj same).2])
              exact ⟨rfl, here, absent⟩
            · rintro ⟨same, -, absent⟩
              obtain ⟨rfl, sameLater⟩ := List.cons.inj same
              exact ⟨(front, rest), behind.mpr ⟨sameLater, absent⟩, rfl⟩

/-- A text in which a word does not occur is not cut. -/
theorem splitAt?_eq_none_iff
    {text : List Char} :
    splitAt? word text = none ↔ ¬ word <:+: text := by
  induction text with
  | nil =>
      rw [splitAt?, Option.map_eq_none_iff, afterStart?_eq_none_iff, List.prefix_nil,
        List.infix_nil]
  | cons character later inductionHypothesis =>
      rw [List.infix_cons_iff, not_or, ← inductionHypothesis]
      by_cases here : word <+: character :: later
      · obtain ⟨rest, same⟩ := here
        rw [(splitAt?_eq_nil_iff nonempty).mpr same.symm]
        simp [← same]
      · rw [splitAt?_cons here, Option.map_eq_none_iff, and_iff_right here]

end Text
end CatalogIngest
