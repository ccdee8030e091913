import CatalogIngest.Proofs.DataType.Reading

/-!
# How deep type texts nest

Reading a type text goes on to at most one text inside it, and reads that from scratch. The text inside
is in normal form up to blanks at its ends, and it has lost the bracket that made an array of it. So
its normal form is shorter, although a text may grow when it is lower-cased, and reading comes to an end
after as many levels as there are opening brackets, and one more.
-/

namespace CatalogIngest
namespace DataType

open Text

/-- How many arrays a type is made of, one inside the other. -/
def arrayDepth : DataType → Nat
  | .array element => element.arrayDepth + 1
  | _ => 0

/-! ## The text of the next level -/

/-- The text inside an array that is read next, if there is one. -/
def inside? (text : String) : Option String :=
  match beforeEnd? ['[', ']'] (normalise text) with
  | some inner => some (String.ofList inner)
  | none =>
      (split? (normalise text)).bind fun parts =>
        if family? parts.base = some .array then parts.element.map String.ofList else none

/-- The type of a text, given how the text inside it is read. -/
def readLevel (readInside : String → DataType) (text : String) : DataType :=
  match beforeEnd? ['[', ']'] (normalise text) with
  | some inner => .array (readInside (String.ofList inner))
  | none =>
      match split? (normalise text) with
      | none => .unknown
      | some parts => parts.type fun element => readInside (String.ofList element)

theorem read_eq_readLevel (text : String) : read text = readLevel read text :=
  read_eq text

/-- The normal text around the text inside an array. -/
theorem normalise_of_inside?
    {text inner : String}
    (found : inside? text = some inner) :
    normalise text = inner.toList ++ ['[', ']'] ∨
      ∃ front between, normalise text = front ++ '<' :: (between ++ ['>']) ∧
        inner.toList = trim between := by
  unfold inside? at found
  split at found
  · next front ended =>
      cases found
      rw [String.toList_ofList]
      exact .inl (beforeEnd?_eq_some.mp ended)
  · obtain ⟨parts, cut, element⟩ := Option.bind_eq_some_iff.mp found
    obtain ⟨-, some⟩ := Option.ite_none_right_eq_some.mp element
    obtain ⟨element, within, rfl⟩ := Option.map_eq_some_iff.mp some
    rw [String.toList_ofList]
    exact .inr (exists_element_of_split? cut within)

/-- A text inside an array is in lower case already. -/
theorem normalise_inside
    {text inner : String}
    (found : inside? text = some inner) :
    normalise inner = trim inner.toList := by
  have within : inner.toList ⊆ normalise text := by
    intro character member
    rcases normalise_of_inside? found with whole | ⟨front, between, whole, trimmed⟩
    · rw [whole]
      exact List.mem_append_left _ member
    · rw [trimmed] at member
      rw [whole]
      simp [(trim_sublist between).mem member]
  have settled : ∀ character ∈ inner.toList, isSettled character = true :=
    fun character member => settled_of_mem_normalise (within member)
  have same := normalise_of_settled settled
  rwa [String.ofList_toList] at same

/-- The normal form of the text inside is shorter. -/
theorem length_normalise_inside
    {text inner : String}
    (found : inside? text = some inner) :
    (normalise inner).length < (normalise text).length := by
  rw [normalise_inside found]
  have bound := length_trim_le inner.toList
  rcases normalise_of_inside? found with whole | ⟨front, between, whole, trimmed⟩
  · rw [whole, List.length_append]
    exact Nat.lt_of_le_of_lt bound (Nat.lt_add_of_pos_right (by decide))
  · rw [trimmed, trim_trim, whole]
    have shorter := length_trim_le between
    simp only [List.length_append, List.length_cons]
    omega

/-- Going on to the text inside an array comes to an end. -/
theorem wellFounded_inside? : WellFounded fun inner text => inside? text = some inner :=
  Subrelation.wf length_normalise_inside (measure fun text => (normalise text).length).wf

/-! ## Opening brackets -/

/-- The number of opening brackets that arrays are written with. -/
def openings (text : List Char) : Nat :=
  text.count '[' + text.count '<'

theorem openings_le_of_sublist
    {piece text : List Char}
    (within : piece.Sublist text) :
    openings piece ≤ openings text :=
  Nat.add_le_add (within.count_le '[') (within.count_le '<')

theorem openings_normalise_le (text : String) : openings (normalise text) ≤ openings text.toList := by
  have same : openings (normalise text) = openings (trim text.toList) := by
    rw [openings, openings, normalise, count_lower (by decide) (by decide),
      count_lower (by decide) (by decide)]
  rw [same]
  exact openings_le_of_sublist (trim_sublist text.toList)

/-- The text inside has lost the bracket that made an array of it. -/
theorem openings_normalise_inside
    {text inner : String}
    (found : inside? text = some inner) :
    openings (normalise inner) < openings (normalise text) := by
  rw [normalise_inside found]
  have kept := openings_le_of_sublist (trim_sublist inner.toList)
  rcases normalise_of_inside? found with whole | ⟨front, between, whole, trimmed⟩
  · rw [whole]
    unfold openings at kept ⊢
    simp only [List.count_append, List.count_cons, List.count_nil]
    grind
  · have shorter := openings_le_of_sublist (trim_sublist between)
    rw [← trimmed] at shorter
    rw [whole]
    unfold openings at kept shorter ⊢
    simp only [List.count_append, List.count_cons, List.count_nil]
    grind

/-! ## One level -/

theorem readLevel_of_inside?
    {text inner : String}
    (found : inside? text = some inner)
    (readInside : String → DataType) :
    readLevel readInside text = .array (readInside inner) := by
  unfold inside? at found
  unfold readLevel
  split at found
  · cases found
    rfl
  · obtain ⟨parts, cut, element⟩ := Option.bind_eq_some_iff.mp found
    obtain ⟨isArray, some⟩ := Option.ite_none_right_eq_some.mp element
    obtain ⟨element, within, rfl⟩ := Option.map_eq_some_iff.mp some
    simp only [cut, Parts.type, isArray, within]

theorem arrayDepth_of_family?
    {base : List Char}
    {type : DataType}
    (named : family? base = some (.plain type)) :
    type.arrayDepth = 0 := by
  have flat : ∀ entry ∈ spellings,
      (match entry.1 with | .plain type => type.arrayDepth | _ => 0) = 0 := by decide
  obtain ⟨entry, found, same⟩ := Option.map_eq_some_iff.mp named
  have here := flat entry (List.mem_of_find?_eq_some found)
  rwa [same] at here

/-- Without a text inside, a type is known at once, and it is at most an array of unknown elements. -/
theorem exists_readLevel_of_none
    {text : String}
    (ended : inside? text = none) :
    ∃ type : DataType, type.arrayDepth ≤ 1 ∧ ∀ readInside, readLevel readInside text = type := by
  unfold inside? at ended
  unfold readLevel
  split at ended
  · nomatch ended
  · cases cut : split? (normalise text) with
    | none => exact ⟨.unknown, Nat.zero_le _, fun _ => rfl⟩
    | some parts =>
        rw [cut, Option.bind_some] at ended
        unfold Parts.type
        dsimp only
        cases named : family? parts.base with
        | none => exact ⟨.unknown, Nat.zero_le _, fun _ => rfl⟩
        | some family =>
            cases family with
            | plain type =>
                exact ⟨type, (arrayDepth_of_family? named).trans_le (Nat.zero_le _), fun _ => rfl⟩
            | decimal => exact ⟨_, Nat.zero_le _, fun _ => rfl⟩
            | varchar => exact ⟨_, Nat.zero_le _, fun _ => rfl⟩
            | char => exact ⟨_, Nat.zero_le _, fun _ => rfl⟩
            | array =>
                rw [if_pos named, Option.map_eq_none_iff] at ended
                rw [ended]
                exact ⟨.array .unknown, le_rfl, fun _ => rfl⟩

/-- The arrays of a type are at most one more than the opening brackets of its text. -/
theorem arrayDepth_read_le (text : String) :
    (read text).arrayDepth ≤ 1 + openings (normalise text) := by
  induction text using wellFounded_inside?.induction with
  | _ text inductionHypothesis =>
      rw [read_eq_readLevel]
      cases next : inside? text with
      | none =>
          obtain ⟨type, shallow, same⟩ := exists_readLevel_of_none next
          rw [same]
          exact shallow.trans (Nat.le_add_right _ _)
      | some inner =>
          have deeper := inductionHypothesis inner next
          have lost := openings_normalise_inside next
          rw [readLevel_of_inside? next, arrayDepth]
          omega

/-- There is one way to read all texts level by level. -/
theorem eq_read_of_readLevel
    {readAny : String → DataType}
    (levelwise : ∀ text, readAny text = readLevel readAny text) :
    readAny = read := by
  funext text
  induction text using wellFounded_inside?.induction with
  | _ text inductionHypothesis =>
      rw [levelwise, read_eq_readLevel]
      cases next : inside? text with
      | none =>
          obtain ⟨type, -, same⟩ := exists_readLevel_of_none next
          rw [same, same]
      | some inner =>
          rw [readLevel_of_inside? next, readLevel_of_inside? next, inductionHypothesis inner next]

/-- Reading a type text goes on to at most one other text, whose normal form is shorter, and otherwise
asks for no other; so it comes to an end, whatever is read, and with one result. The type has at most
one array more than the text has opening brackets. -/
theorem reading_ends (text : String) :
    read text = readLevel read text ∧
    (∀ inner, inside? text = some inner →
      (∀ readInside, readLevel readInside text = .array (readInside inner)) ∧
        (normalise inner).length < (normalise text).length) ∧
    (inside? text = none →
      ∀ first second, readLevel first text = readLevel second text) ∧
    (WellFounded fun inner outer => inside? outer = some inner) ∧
    (∀ readAny, (∀ text, readAny text = readLevel readAny text) → readAny = read) ∧
    (read text).arrayDepth ≤ 1 + (text.toList.count '[' + text.toList.count '<') := by
  refine ⟨read_eq_readLevel text, ?_, ?_, wellFounded_inside?, fun _ => eq_read_of_readLevel, ?_⟩
  · intro inner found
    exact ⟨readLevel_of_inside? found, length_normalise_inside found⟩
  · intro ended first second
    obtain ⟨type, -, same⟩ := exists_readLevel_of_none ended
    rw [same, same]
  · exact (arrayDepth_read_le text).trans (Nat.add_le_add_left (openings_normalise_le text) 1)

/-- The text inside an array may be longer than the whole text; its normal form is not. -/
theorem reading_ends_on_growing_text :
    (inside? "İİİ[]" = some "i\u0307i\u0307i\u0307" ∧
      "İİİ[]".toList.length < "i\u0307i\u0307i\u0307".toList.length ∧
      (normalise "i\u0307i\u0307i\u0307").length < (normalise "İİİ[]").length ∧
      (read "İİİ[]").arrayDepth ≤ 2) ∧
    (inside? "Array" = none ∧
      ∀ first second, readLevel first "Array" = readLevel second "Array") := by
  have inner : inside? "İİİ[]" = some "i\u0307i\u0307i\u0307" := by decide +kernel
  have ended : inside? "Array" = none := by decide +kernel
  obtain ⟨-, shrinks, -, -, -, shallow⟩ := reading_ends "İİİ[]"
  exact ⟨⟨inner, by decide, (shrinks _ inner).2, shallow⟩, ended, (reading_ends "Array").2.2.1 ended⟩

end DataType
end CatalogIngest
