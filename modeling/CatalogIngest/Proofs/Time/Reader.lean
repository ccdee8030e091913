import CatalogIngest.Proofs.Time.Fraction

/-!
# Readers of the front of a text

The parts of a timestamp are read one after another, each off the front of what is left. A reader
of a part looks no further than at the character behind it, so the part is read alike whatever
follows; and two readers of different strictness agree where both of them read. Both properties pass
to readers that are put together from others.
-/

namespace CatalogIngest
namespace Time

open Number (isDigit)

/-- A reader turns the front of a text into a value and leaves the rest. -/
abbrev Reader (α : Type) := StateT (List Char) Option α

namespace Reader

variable {α β : Type}

theorem bind_apply
    (read : Reader α)
    (next : α → Reader β)
    (text : List Char) :
    (read >>= next) text = (read text).bind fun found => next found.1 found.2 := rfl

theorem pure_apply
    (value : α)
    (text : List Char) :
    (pure value : Reader α) text = some (value, text) := rfl

theorem bind_eq_some_iff
    {read : Reader α}
    {next : α → Reader β}
    {text rest : List Char}
    {value : β} :
    (read >>= next) text = some (value, rest) ↔
      ∃ found between, read text = some (found, between) ∧
        next found between = some (value, rest) := by
  rw [bind_apply, Option.bind_eq_some_iff, Prod.exists]

theorem bind_of_some
    {read : Reader α}
    (next : α → Reader β)
    {text rest : List Char}
    {value : α}
    (found : read text = some (value, rest)) :
    (read >>= next) text = next value rest := by
  rw [bind_apply, found, Option.bind_some]

/-- Read a value and the mark behind it. -/
def upTo (mark : List Char → Option (List Char)) (read : Reader α) : Reader α := fun text =>
  (read text).bind fun found => (mark found.2).map fun rest => (found.1, rest)

theorem upTo_bind
    (mark : List Char → Option (List Char))
    (read : Reader α)
    (text : List Char)
    (next : α × List Char → Option β) :
    (upTo mark read text).bind next =
      (read text).bind fun found => (mark found.2).bind fun rest => next (found.1, rest) := by
  simp only [upTo, Option.bind_assoc, Option.bind_map, Function.comp_def]

theorem upTo_eq_some_iff
    {mark : List Char → Option (List Char)}
    {read : Reader α}
    {text rest : List Char}
    {value : α} :
    upTo mark read text = some (value, rest) ↔
      ∃ between, read text = some (value, between) ∧ mark between = some rest := by
  simp [upTo, Option.bind_eq_some_iff]

/-! ## Taking the front of a text -/

/-- A text has neither a point nor a letter Z in it. -/
def Unpointed (text : List Char) : Prop :=
  ∀ character ∈ text, character ≠ '.' ∧ character ≠ 'Z'

theorem Unpointed.append
    {front rest : List Char}
    (first : Unpointed front)
    (second : Unpointed rest) :
    Unpointed (front ++ rest) :=
  List.forall_mem_append.mpr ⟨first, second⟩

/-- A reader takes a piece without points off the front of a text, and reads the same value from it
in front of any other text that may stand behind it. -/
def TakesFront (behind : List Char → Prop) (read : Reader α) : Prop :=
  ∀ ⦃text value rest⦄, read text = some (value, rest) →
    ∃ front, text = front ++ rest ∧ Unpointed front ∧
      ∀ tail, behind tail → read (front ++ tail) = some (value, tail)

/-- A mark is one character that is neither a digit nor a point nor a letter Z. -/
def IsMark (mark : List Char → Option (List Char)) : Prop :=
  ∀ ⦃text rest⦄, mark text = some rest →
    ∃ character, text = character :: rest ∧ isDigit character = false ∧
      (character ≠ '.' ∧ character ≠ 'Z') ∧ ∀ tail, mark (character :: tail) = some tail

theorem TakesFront.bind
    {behind : List Char → Prop}
    {read : Reader α}
    {next : α → Reader β}
    (first : TakesFront (fun _ => True) read)
    (second : ∀ value, TakesFront behind (next value)) :
    TakesFront behind (read >>= next) := by
  intro text value rest found
  obtain ⟨earlier, between, foundFirst, foundSecond⟩ := bind_eq_some_iff.mp found
  obtain ⟨front, rfl, frontUnpointed, readsFront⟩ := first foundFirst
  obtain ⟨piece, rfl, pieceUnpointed, readsPiece⟩ := second earlier foundSecond
  refine ⟨front ++ piece, (List.append_assoc _ _ _).symm, frontUnpointed.append pieceUnpointed, ?_⟩
  intro tail allowed
  rw [List.append_assoc, bind_of_some next (readsFront (piece ++ tail) trivial)]
  exact readsPiece tail allowed

theorem TakesFront.bind_pure
    {behind : List Char → Prop}
    {read : Reader α}
    (takes : TakesFront behind read)
    (transform : α → β) :
    TakesFront behind (read >>= fun value => pure (transform value)) := by
  intro text value rest found
  obtain ⟨earlier, between, foundFirst, ⟨⟩⟩ := bind_eq_some_iff.mp found
  obtain ⟨front, rfl, unpointed, reads⟩ := takes foundFirst
  exact ⟨front, rfl, unpointed, fun tail allowed => bind_of_some _ (reads tail allowed)⟩

/-- Behind a number and a mark anything may stand. -/
theorem TakesFront.upTo
    {mark : List Char → Option (List Char)}
    {read : Reader α}
    (takes : TakesFront EndsDigits read)
    (marks : IsMark mark) :
    TakesFront (fun _ => True) (upTo mark read) := by
  intro text value rest found
  obtain ⟨between, foundValue, foundMark⟩ := upTo_eq_some_iff.mp found
  obtain ⟨front, rfl, unpointed, reads⟩ := takes foundValue
  obtain ⟨character, rfl, notDigit, markUnpointed, readsMark⟩ := marks foundMark
  refine ⟨front ++ [character], by simp,
    unpointed.append (List.forall_mem_singleton.mpr markUnpointed), fun tail _ => ?_⟩
  rw [List.append_assoc, List.singleton_append, upTo_eq_some_iff]
  refine ⟨character :: tail, reads _ ?_, readsMark tail⟩
  rintro _ ⟨⟩
  exact notDigit

/-- A reader that wants no blank at the front may as well skip blanks first. -/
theorem TakesFront.afterBlanks
    {behind : List Char → Prop}
    {read : Reader α}
    (takes : TakesFront behind read)
    (shown : ∀ ⦃text value rest⦄, read text = some (value, rest) → Text.trimStart text = text) :
    TakesFront behind (fun text => read (Text.trimStart text)) := by
  intro text value rest found
  obtain ⟨front, same, unpointed, reads⟩ := takes found
  have blank : ∀ character ∈ text.takeWhile Text.isBlank, Text.isBlank character = true :=
    fun character member => List.mem_takeWhile_imp member
  have blankUnpointed : Unpointed (text.takeWhile Text.isBlank) := by
    intro character member
    have isBlank := blank character member
    constructor
    · rintro rfl
      exact absurd isBlank (by decide)
    · rintro rfl
      exact absurd isBlank (by decide)
  refine ⟨text.takeWhile Text.isBlank ++ front, ?_, blankUnpointed.append unpointed, ?_⟩
  · rw [List.append_assoc, ← same]
    exact List.takeWhile_append_dropWhile.symm
  · intro tail allowed
    have found := reads tail allowed
    change read (Text.trimStart (text.takeWhile Text.isBlank ++ front ++ tail)) = _
    rw [List.append_assoc, Text.trimStart_append_of_blank blank, shown found]
    exact found

/-! ## Agreeing on the front of a text -/

/-- Where both readers read a text, they find the same value and leave the same rest. -/
def Agrees (first second : Reader α) : Prop :=
  ∀ ⦃text found other⦄, first text = some found → second text = some other → found = other

theorem Agrees.refl (read : Reader α) : Agrees read read := by
  intro text found other here there
  exact Option.some.inj (here.symm.trans there)

theorem Agrees.bind
    {first second : Reader α}
    {firstNext secondNext : α → Reader β}
    (agrees : Agrees first second)
    (later : ∀ value, Agrees (firstNext value) (secondNext value)) :
    Agrees (first >>= firstNext) (second >>= secondNext) := by
  rintro text ⟨found, rest⟩ ⟨other, otherRest⟩ here there
  obtain ⟨value, between, foundFirst, foundNext⟩ := bind_eq_some_iff.mp here
  obtain ⟨otherValue, otherBetween, otherFirst, otherNext⟩ := bind_eq_some_iff.mp there
  cases agrees foundFirst otherFirst
  exact later value foundNext otherNext

theorem Agrees.upTo
    {firstMark secondMark : List Char → Option (List Char)}
    {first second : Reader α}
    (agrees : Agrees first second)
    (firstMarks : IsMark firstMark)
    (secondMarks : IsMark secondMark) :
    Agrees (upTo firstMark first) (upTo secondMark second) := by
  rintro text ⟨found, rest⟩ ⟨other, otherRest⟩ here there
  obtain ⟨between, foundValue, foundMark⟩ := upTo_eq_some_iff.mp here
  obtain ⟨otherBetween, otherValue, otherMark⟩ := upTo_eq_some_iff.mp there
  cases agrees foundValue otherValue
  obtain ⟨character, same, -⟩ := firstMarks foundMark
  obtain ⟨otherCharacter, otherSame, -⟩ := secondMarks otherMark
  cases same.symm.trans otherSame
  rfl

end Reader

end Time
end CatalogIngest
