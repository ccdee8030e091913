import CatalogIngest.Text.Blank
import Mathlib.Data.List.DropRight
import Mathlib.Data.List.TakeWhile

/-!
# Trimming

Trimming drops blanks at the ends of a text and stops at the first and at the last character that is
not blank. So blanks added at the ends do not matter, and trimming twice is trimming once.
-/

namespace CatalogIngest
namespace Text

/-! ## Blank characters -/

/-- A code point that several ranges cover lies in one of them. -/
theorem CodeRange.exists_of_covers
    {ranges : List CodeRange}
    {code : Nat}
    (covered : covers ranges code = true) :
    ∃ range ∈ ranges, range.first ≤ code ∧ code ≤ range.last := by
  induction ranges with
  | nil => nomatch covered
  | cons range later inductionHypothesis =>
      rw [covers] at covered
      split at covered
      · nomatch covered
      · next reached =>
          rcases (Bool.or_eq_true _ _).mp covered with within | beyond
          · exact ⟨range, List.mem_cons_self, Nat.le_of_not_lt reached, of_decide_eq_true within⟩
          · obtain ⟨other, member, inside⟩ := inductionHypothesis beyond
            exact ⟨other, List.mem_cons_of_mem _ member, inside⟩

/-- What holds of every code point of some ranges holds of every character that they cover. -/
theorem CodeRange.forall_of_covers
    {ranges : List CodeRange}
    {holds : Nat → Prop}
    (each : ∀ range ∈ ranges,
      ∀ code ∈ List.range' range.first (range.last + 1 - range.first), holds code)
    {code : Nat}
    (covered : covers ranges code = true) :
    holds code := by
  obtain ⟨range, member, above, below⟩ := exists_of_covers covered
  refine each range member code (List.mem_range'_1.mpr ⟨above, ?_⟩)
  omega

/-! ## Dropping blanks at one end -/

theorem trimStart_append_of_blank
    {front : List Char}
    (blank : ∀ character ∈ front, isBlank character = true)
    (text : List Char) :
    trimStart (front ++ text) = trimStart text :=
  List.dropWhile_append_of_pos blank

theorem trimEnd_append_of_blank
    (text : List Char)
    {back : List Char}
    (blank : ∀ character ∈ back, isBlank character = true) :
    trimEnd (text ++ back) = trimEnd text := by
  unfold trimEnd
  rw [List.reverse_append, List.dropWhile_append_of_pos]
  exact fun character member => blank character (List.mem_reverse.mp member)

theorem trimStart_cons_of_not_blank
    {first : Char}
    (notBlank : isBlank first = false)
    (rest : List Char) :
    trimStart (first :: rest) = first :: rest :=
  List.dropWhile_cons_of_neg (by simp [notBlank])

theorem trimEnd_concat_of_not_blank
    (front : List Char)
    {last : Char}
    (notBlank : isBlank last = false) :
    trimEnd (front ++ [last]) = front ++ [last] :=
  List.rdropWhile_concat_neg isBlank front last (by simp [notBlank])

/-- Dropping stops at a character that is not blank at the latest. -/
theorem trimStart_append_cons
    (front : List Char)
    {stop : Char}
    (notBlank : isBlank stop = false)
    (rest : List Char) :
    trimStart (front ++ stop :: rest) = trimStart front ++ stop :: rest := by
  induction front with
  | nil => exact trimStart_cons_of_not_blank notBlank rest
  | cons first front inductionHypothesis =>
      cases blank : isBlank first with
      | true => simpa [trimStart, blank] using inductionHypothesis
      | false => simp [trimStart, blank]

theorem trimEnd_begins (text : List Char) : trimEnd text <+: text :=
  List.rdropWhile_prefix isBlank text

/-! ## Trimming both ends -/

/-- Blanks around a text do not matter. -/
theorem trim_surround
    {front back : List Char}
    (frontBlank : ∀ character ∈ front, isBlank character = true)
    (text : List Char)
    (backBlank : ∀ character ∈ back, isBlank character = true) :
    trim (front ++ text ++ back) = trim text := by
  unfold trim
  rw [List.append_assoc, trimStart_append_of_blank frontBlank]
  -- Either all of the text is blank and goes with the front, or dropping stops inside it.
  by_cases allBlank : ∀ character ∈ text, isBlank character = true
  · have nothing : trimStart text = [] := List.dropWhile_eq_nil_iff.mpr allBlank
    rw [trimStart_append_of_blank allBlank, nothing]
    have nothingBehind : trimStart back = [] := List.dropWhile_eq_nil_iff.mpr backBlank
    rw [nothingBehind]
  · obtain ⟨stop, member, notBlank⟩ : ∃ stop ∈ text, isBlank stop = false := by
      simpa using allBlank
    obtain ⟨before, after, rfl⟩ := List.append_of_mem member
    rw [List.append_assoc, List.cons_append, trimStart_append_cons before notBlank,
      trimStart_append_cons before notBlank, ← List.cons_append, ← List.append_assoc,
      trimEnd_append_of_blank _ backBlank]

/-- A text that neither begins nor ends with a blank is trimmed. -/
theorem trim_of_ends
    {text : List Char}
    (starts : trimStart text = text)
    (ends : trimEnd text = text) :
    trim text = text := by
  rw [trim, starts, ends]

/-- A text without blanks is trimmed. -/
theorem trim_of_shown
    {text : List Char}
    (shown : ∀ character ∈ text, isBlank character = false) :
    trim text = text := by
  refine trim_of_ends ?_ ?_
  · cases text with
    | nil => rfl
    | cons first rest => exact trimStart_cons_of_not_blank (shown _ List.mem_cons_self) rest
  · rcases List.eq_nil_or_concat' text with rfl | ⟨front, last, rfl⟩
    · rfl
    · exact trimEnd_concat_of_not_blank front (shown _ (List.mem_append_right _ List.mem_cons_self))

/-- What is left at the end of a text that does not begin with a blank does not begin with one. -/
theorem trimStart_trimEnd
    {text : List Char}
    (starts : trimStart text = text) :
    trimStart (trimEnd text) = trimEnd text := by
  obtain ⟨dropped, whole⟩ := trimEnd_begins text
  cases kept : trimEnd text with
  | nil => rfl
  | cons first rest =>
      rw [kept] at whole
      apply trimStart_cons_of_not_blank
      rw [← whole] at starts
      by_contra blank
      have shorter := congrArg List.length starts
      have bound := length_trimStart_le (rest ++ dropped)
      rw [Bool.not_eq_false] at blank
      simp only [trimStart, List.cons_append, List.dropWhile_cons, blank, if_true,
        List.length_cons] at shorter bound
      omega

theorem trimStart_trimStart (text : List Char) : trimStart (trimStart text) = trimStart text :=
  List.dropWhile_idempotent isBlank text

theorem trimStart_trim (text : List Char) : trimStart (trim text) = trim text :=
  trimStart_trimEnd (trimStart_trimStart text)

theorem trimEnd_trim (text : List Char) : trimEnd (trim text) = trim text :=
  List.rdropWhile_idempotent isBlank (trimStart text)

theorem trim_trimStart (text : List Char) : trim (trimStart text) = trim text := by
  rw [trim, trimStart_trimStart, trim]

theorem trim_trim (text : List Char) : trim (trim text) = trim text :=
  trim_of_ends (trimStart_trim text) (trimEnd_trim text)

/-- Trimming only leaves characters out. -/
theorem trim_sublist (text : List Char) : (trim text).Sublist text :=
  (trimEnd_begins _).sublist.trans (List.dropWhile_sublist isBlank)

end Text
end CatalogIngest
