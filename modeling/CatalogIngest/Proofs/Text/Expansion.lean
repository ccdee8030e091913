import CatalogIngest.Text.Glob
import Mathlib.Data.List.Infix

/-!
# Glob patterns match their expansions

A pattern with stars is expanded by putting a run of characters in the place of each star. The
matcher goes through a text once and never takes back where it found a piece. That loses nothing:
what the first occurrence of a piece leaves of the text ends in what any later one leaves, and the
next star takes up the rest.
-/

namespace CatalogIngest
namespace Text

/-- A text is an expansion of a pattern if it results from replacing each star by some run of
characters, possibly empty. -/
inductive Expansion : List Char → List Char → Prop
  | done : Expansion [] []
  | plain {character : Char} {pattern text : List Char} (noStar : character ≠ '*')
      (later : Expansion pattern text) : Expansion (character :: pattern) (character :: text)
  | star (run : List Char) {pattern text : List Char} (later : Expansion pattern text) :
      Expansion ('*' :: pattern) (run ++ text)

theorem expansion_nil_iff
    {text : List Char} :
    Expansion [] text ↔ text = [] := by
  constructor
  · rintro ⟨⟩
    rfl
  · rintro rfl
    exact .done

theorem expansion_plain_iff
    {character : Char}
    (noStar : character ≠ '*')
    {pattern text : List Char} :
    Expansion (character :: pattern) text ↔
      ∃ rest, text = character :: rest ∧ Expansion pattern rest := by
  constructor
  · intro expansion
    cases expansion with
    | plain _ later => exact ⟨_, rfl, later⟩
    | star run later => exact absurd rfl noStar
  · rintro ⟨rest, rfl, later⟩
    exact .plain noStar later

theorem expansion_star_iff
    {pattern text : List Char} :
    Expansion ('*' :: pattern) text ↔ ∃ run rest, text = run ++ rest ∧ Expansion pattern rest := by
  constructor
  · intro expansion
    cases expansion with
    | plain noStar later => exact absurd rfl noStar
    | star run later => exact ⟨run, _, rfl, later⟩
  · rintro ⟨run, rest, rfl, later⟩
    exact .star run later

theorem expansion_append_iff
    {plain : List Char}
    (starless : '*' ∉ plain)
    {pattern text : List Char} :
    Expansion (plain ++ pattern) text ↔ ∃ rest, text = plain ++ rest ∧ Expansion pattern rest := by
  induction plain generalizing text with
  | nil => simp
  | cons character plain inductionHypothesis =>
      obtain ⟨noStar, later⟩ := not_or.mp (mt List.mem_cons.mpr starless)
      rw [List.cons_append, expansion_plain_iff (Ne.symm noStar)]
      simp [inductionHypothesis later]

/-- A word between two stars is expanded to the texts in which it occurs. -/
theorem expansion_between_stars_iff
    {word : List Char}
    (starless : '*' ∉ word)
    {text : List Char} :
    Expansion ('*' :: (word ++ ['*'])) text ↔ word <:+: text := by
  rw [expansion_star_iff]
  constructor
  · rintro ⟨front, rest, rfl, later⟩
    obtain ⟨back, rfl, -⟩ := (expansion_append_iff starless).mp later
    exact ⟨front, back, List.append_assoc front word back⟩
  · rintro ⟨front, back, rfl⟩
    have anything : Expansion ['*'] back := by
      have ended := Expansion.star back .done
      rwa [List.append_nil] at ended
    exact ⟨front, word ++ back, List.append_assoc front word back,
      (expansion_append_iff starless).mpr ⟨back, rfl, anything⟩⟩

/-! ## Pieces between stars -/

/-- Pieces follow one another up to the end of a text, each behind some run of characters. -/
def Spread : List (List Char) → List Char → Prop
  | [], text => text = []
  | piece :: pieces, text => ∃ run rest, text = run ++ piece ++ rest ∧ Spread pieces rest

/-- The first piece of a pattern begins its expansions, and the others are spread behind it. -/
theorem expansion_iff_spread
    {pattern text first : List Char}
    {pieces : List (List Char)}
    (split : splitOn '*' pattern = first :: pieces) :
    Expansion pattern text ↔ ∃ rest, text = first ++ rest ∧ Spread pieces rest := by
  induction pattern generalizing text first pieces with
  | nil =>
      cases split
      simp [expansion_nil_iff, Spread]
  | cons character pattern inductionHypothesis =>
      obtain ⟨next, others, splitLater⟩ := List.exists_cons_of_ne_nil (splitOn_ne_nil '*' pattern)
      have later := fun text => @inductionHypothesis text _ _ splitLater
      rw [splitOn, splitLater] at split
      by_cases isStar : character = '*'
      · rw [if_pos isStar] at split
        cases split
        subst isStar
        rw [expansion_star_iff]
        simp [Spread, later]
      · rw [if_neg isStar] at split
        cases split
        rw [expansion_plain_iff isStar]
        simp [later]

/-! ## The first occurrence of a piece -/

/-- More text in front is taken up by the run before the first piece. -/
theorem Spread.append_left
    {pieces : List (List Char)}
    (nonempty : pieces ≠ [])
    {text : List Char}
    (spread : Spread pieces text)
    (more : List Char) :
    Spread pieces (more ++ text) := by
  cases pieces with
  | nil => exact absurd rfl nonempty
  | cons piece pieces =>
      obtain ⟨run, rest, rfl, later⟩ := spread
      exact ⟨more ++ run, rest, by simp, later⟩

/-- A word that occurs in a text is found, and what the cut leaves behind the word ends in what this
occurrence leaves. -/
theorem exists_splitAt?_eq_some
    (word run rest : List Char) :
    ∃ front more, splitAt? word (run ++ word ++ rest) = some (front, more ++ rest) := by
  induction run with
  | nil =>
      have begins : afterStart? word (word ++ rest) = some rest := afterStart?_eq_some.mpr rfl
      refine ⟨[], [], ?_⟩
      rw [List.nil_append]
      cases text : word ++ rest with
      | nil =>
          rw [text] at begins
          rw [splitAt?, begins]
          rfl
      | cons character later =>
          rw [text] at begins
          rw [splitAt?, begins]
          rfl
  | cons character run inductionHypothesis =>
      rw [List.cons_append, List.cons_append, splitAt?]
      cases here : afterStart? word (character :: (run ++ word ++ rest)) with
      | none =>
          obtain ⟨front, more, found⟩ := inductionHypothesis
          exact ⟨character :: front, more, by rw [found]; rfl⟩
      | some remaining =>
          -- The word begins further left here, so it leaves at least as much.
          have same := afterStart?_eq_some.mp here
          have shorter : rest.length ≤ remaining.length := by
            have lengths := congrArg List.length same
            simp only [List.length_cons, List.length_append] at lengths
            omega
          have ends : rest <:+ word ++ remaining := by
            rw [← same]
            exact List.suffix_append (character :: (run ++ word)) rest
          obtain ⟨more, rfl⟩ :=
            List.suffix_of_suffix_length_le ends (List.suffix_append word remaining) shorter
          exact ⟨[], more, rfl⟩

/-- Looking for each piece at its first occurrence finds out whether the pieces are spread over a
text. -/
theorem piecesOccur_iff_spread
    {pieces : List (List Char)}
    (nonempty : pieces ≠ [])
    {text : List Char} :
    piecesOccur pieces text = true ↔ Spread pieces text := by
  induction pieces generalizing text with
  | nil => exact absurd rfl nonempty
  | cons piece later inductionHypothesis =>
      cases later with
      | nil =>
          rw [piecesOccur, Option.isSome_iff_exists]
          simp [beforeEnd?_eq_some, Spread]
      | cons second later =>
          have behind := @inductionHypothesis (List.cons_ne_nil second later)
          simp only [piecesOccur]
          constructor
          · intro occurs
            cases cut : splitAt? piece text with
            | none =>
                rw [cut] at occurs
                nomatch occurs
            | some parts =>
                rw [cut] at occurs
                exact ⟨parts.1, parts.2, eq_of_splitAt?_eq_some cut, behind.mp occurs⟩
          · rintro ⟨run, rest, rfl, spread⟩
            obtain ⟨front, more, cut⟩ := exists_splitAt?_eq_some piece run rest
            rw [cut]
            exact behind.mpr (spread.append_left (List.cons_ne_nil _ _) more)

/-- The matcher finds out whether a text is an expansion of a pattern. -/
theorem globMatches_iff_expansion
    (pattern text : List Char) :
    globMatches pattern text = true ↔ Expansion pattern text := by
  obtain ⟨first, pieces, split⟩ := List.exists_cons_of_ne_nil (splitOn_ne_nil '*' pattern)
  rw [expansion_iff_spread split, globMatches, split]
  cases pieces with
  | nil => simp [Spread, eq_comm]
  | cons piece pieces =>
      dsimp only
      constructor
      · intro matched
        cases begins : afterStart? first text with
        | none =>
            rw [begins] at matched
            nomatch matched
        | some rest =>
            rw [begins] at matched
            exact ⟨rest, afterStart?_eq_some.mp begins,
              (piecesOccur_iff_spread (List.cons_ne_nil _ _)).mp matched⟩
      · rintro ⟨rest, rfl, spread⟩
        rw [afterStart?_eq_some.mpr rfl]
        exact (piecesOccur_iff_spread (List.cons_ne_nil _ _)).mpr spread

/-! ## Putting runs in the place of stars -/

/-- A pattern with a run of characters in the place of each star. -/
def fillStars : List Char → List (List Char) → List Char
  | [], _ => []
  | character :: pattern, runs =>
      if character = '*' then runs.headD [] ++ fillStars pattern runs.tail
      else character :: fillStars pattern runs

theorem expansion_iff_exists_fillStars
    {pattern text : List Char} :
    Expansion pattern text ↔
      ∃ runs, runs.length = pattern.count '*' ∧ fillStars pattern runs = text := by
  induction pattern generalizing text with
  | nil =>
      rw [expansion_nil_iff]
      constructor
      · rintro rfl
        exact ⟨[], rfl, rfl⟩
      · rintro ⟨runs, -, rfl⟩
        rfl
  | cons character pattern inductionHypothesis =>
      by_cases isStar : character = '*'
      · subst isStar
        simp only [expansion_star_iff, inductionHypothesis, List.count_cons_self, fillStars,
          if_true]
        constructor
        · rintro ⟨run, _, rfl, runs, enough, rfl⟩
          exact ⟨run :: runs, congrArg Nat.succ enough, rfl⟩
        · rintro ⟨_ | ⟨run, runs⟩, enough, rfl⟩
          · nomatch enough
          · exact ⟨run, _, rfl, runs, Nat.succ.inj enough, rfl⟩
      · simp only [expansion_plain_iff isStar, inductionHypothesis, List.count_cons_of_ne isStar,
          fillStars, if_neg isStar]
        constructor
        · rintro ⟨_, rfl, runs, enough, rfl⟩
          exact ⟨runs, enough, rfl⟩
        · rintro ⟨runs, enough, rfl⟩
          exact ⟨_, rfl, runs, enough, rfl⟩

/-- A text matches a pattern exactly if it is the pattern with each star replaced by some run of
characters, possibly empty and chosen for each star on its own. -/
theorem globMatches_iff_exists_fillStars
    (pattern text : List Char) :
    globMatches pattern text = true ↔
      ∃ runs, runs.length = pattern.count '*' ∧ fillStars pattern runs = text := by
  rw [globMatches_iff_expansion, expansion_iff_exists_fillStars]

end Text
end CatalogIngest
