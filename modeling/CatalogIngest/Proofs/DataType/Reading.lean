import CatalogIngest.DataType.Reader
import CatalogIngest.Proofs.Text.LowerCase

/-!
# Reading type texts level by level

A type text is trimmed and lower-cased before it is looked at, and so is the text of an element type
inside it, which is in lower case by then; this changes nothing, so the element is read as if it were
written alone. Hence both spellings of an array are read as an array of what they enclose.
-/

namespace CatalogIngest
namespace DataType

open Text

/-! ## Normal texts -/

theorem normalise_ofList (text : List Char) : normalise (String.ofList text) = lower (trim text) := by
  rw [normalise, String.toList_ofList]

/-- A text is read by its normal form. -/
theorem read_congr
    {first second : String}
    (same : normalise first = normalise second) :
    read first = read second := by
  rw [read, read, same]

/-- Settled texts only have to be trimmed. -/
theorem normalise_of_settled
    {text : List Char}
    (settled : ∀ character ∈ text, isSettled character = true) :
    normalise (String.ofList text) = trim text := by
  rw [normalise_ofList]
  exact lower_of_settled fun character member => settled character ((trim_sublist text).mem member)

theorem settled_of_mem_normalise
    {text : String}
    {character : Char}
    (member : character ∈ normalise text) :
    isSettled character = true :=
  settled_of_mem_lower member

/-! ## One level of a type text -/

/-- The element that a cut finds stands between angle brackets, and is trimmed. -/
theorem exists_element_of_split?
    {text element : List Char}
    {parts : Parts}
    (cut : split? text = some parts)
    (inner : parts.element = some element) :
    ∃ front between, text = front ++ '<' :: (between ++ ['>']) ∧ element = trim between := by
  have whole : (text.takeWhile fun character => !opensArguments character) ++
      (text.dropWhile fun character => !opensArguments character) = text :=
    List.takeWhile_append_dropWhile
  have stops := List.head?_dropWhile_not (fun character => !opensArguments character) text
  simp only [split?] at cut
  split at cut
  · split at cut <;> cases cut
    cases inner
  · split at cut
    · split at cut <;> cases cut
      cases inner
    · cases cut
  · next opening rest notParenthesis found =>
      rw [found] at stops whole
      have opens : opening = '<' := by
        rw [List.head?_cons] at stops
        simp only [Bool.not_eq_eq_eq_not, Bool.not_false, opensArguments, Bool.or_eq_true,
          decide_eq_true_eq] at stops
        exact stops.resolve_left notParenthesis
      split at cut
      · next between ended =>
          split at cut <;> cases cut
          cases inner
          rw [opens, beforeEnd?_eq_some.mp ended] at whole
          exact ⟨_, between, whole.symm, rfl⟩
      · cases cut

/-- The element that a cut finds is a trimmed piece of the text. -/
theorem element_of_split?
    {text element : List Char}
    {parts : Parts}
    (cut : split? text = some parts)
    (inner : parts.element = some element) :
    element ⊆ text ∧ trim element = element := by
  obtain ⟨front, between, rfl, rfl⟩ := exists_element_of_split? cut inner
  refine ⟨fun character member => ?_, trim_trim between⟩
  simp [(trim_sublist between).mem member]

/-- The type that the parts of a text make, given how the text of an element is read. -/
def Parts.type (readElement : List Char → DataType) (parts : Parts) : DataType :=
  match family? parts.base with
  | none => .unknown
  | some (.plain type) => type
  | some .decimal =>
      .decimal (parts.arguments.head?.bind readWord16?) ((parts.arguments[1]?).bind readWord16?)
  | some .varchar => .varchar (lengthArgument parts.arguments)
  | some .char => .char (lengthArgument parts.arguments)
  | some .array =>
      match parts.element with
      | none => .array .unknown
      | some element => .array (readElement element)

/-- Reading goes one level at a time, and the text inside an array is read from scratch. -/
theorem read_eq (text : String) :
    read text =
      match beforeEnd? ['[', ']'] (normalise text) with
      | some inner => .array (read (String.ofList inner))
      | none =>
          match split? (normalise text) with
          | none => .unknown
          | some parts => parts.type fun element => read (String.ofList element) := by
  rw [read, readNormal]
  split
  · next inner ended =>
      have settled : ∀ character ∈ inner, isSettled character = true := by
        intro character member
        have inside : character ∈ normalise text := by
          rw [beforeEnd?_eq_some.mp ended]
          exact List.mem_append_left _ member
        exact settled_of_mem_normalise inside
      simp only [ended]
      rw [read, normalise_of_settled settled]
  · next noSuffix =>
      simp only [noSuffix]
      split
      · next noForm => simp only [noForm]
      · next parts cut =>
          simp only [cut, Parts.type]
          rcases family? parts.base with _ | _ | _ | _ | _ | _
          · rfl
          · rfl
          · rfl
          · rfl
          · rfl
          · dsimp only
            split
            · next noElement => simp only [noElement]
            · next element found =>
                obtain ⟨within, trimmed⟩ := element_of_split? cut found
                have settled : ∀ character ∈ element, isSettled character = true :=
                  fun character member => settled_of_mem_normalise (within member)
                simp only [found]
                rw [read, normalise_of_settled settled, trimmed]

/-! ## The forms of a type text -/

theorem beforeEnd?_concat
    (front : List Char)
    {last : Char}
    (notBracket : last ≠ ']') :
    beforeEnd? ['[', ']'] (front ++ [last]) = none := by
  rw [Option.eq_none_iff_forall_not_mem]
  intro rest found
  have whole := beforeEnd?_eq_some.mp found
  rw [List.append_cons rest] at whole
  have ends := List.append_inj_right' whole rfl
  exact notBracket (List.cons.inj ends).1

/-- A name of a type, as it stands in a normal text. -/
structure IsTypeName (name : List Char) : Prop where
  isName : isName name = true
  trimmed : trim name = name

namespace IsTypeName

variable {name : List Char}

theorem notOpening
    (typeName : IsTypeName name)
    {character : Char}
    (member : character ∈ name) :
    opensArguments character = false := by
  have continues : continuesName character = true := by
    have named := typeName.isName
    cases name with
    | nil => nomatch named
    | cons first rest =>
        rw [DataType.isName, Bool.and_eq_true, List.all_eq_true] at named
        rcases List.mem_cons.mp member with rfl | later
        · simp [continuesName, named.1]
        · exact named.2 character later
  by_contra opens
  rw [Bool.not_eq_false, opensArguments, Bool.or_eq_true, decide_eq_true_eq,
    decide_eq_true_eq] at opens
  rcases opens with rfl | rfl
  · exact absurd continues (by decide)
  · exact absurd continues (by decide)

theorem takeWhile_append
    (typeName : IsTypeName name)
    {opening : Char}
    (opens : opensArguments opening = true)
    (rest : List Char) :
    (name ++ opening :: rest).takeWhile (fun character => !opensArguments character) = name := by
  rw [List.takeWhile_append_of_pos fun character member => by simp [typeName.notOpening member]]
  simp [opens]

theorem dropWhile_append
    (typeName : IsTypeName name)
    {opening : Char}
    (opens : opensArguments opening = true)
    (rest : List Char) :
    (name ++ opening :: rest).dropWhile (fun character => !opensArguments character) =
      opening :: rest := by
  rw [List.dropWhile_append_of_pos fun character member => by simp [typeName.notOpening member]]
  simp [opens]

theorem trimEnd_eq (typeName : IsTypeName name) : trimEnd name = name := by
  rw [← typeName.trimmed, trimEnd_trim]

/-- A name with arguments in parentheses. -/
theorem split?_arguments
    (typeName : IsTypeName name)
    {arguments : List Char}
    (closedOnce : ')' ∉ arguments) :
    split? (name ++ '(' :: (arguments ++ [')'])) = some ⟨name, argumentList arguments, none⟩ := by
  have ended : beforeEnd? [')'] (arguments ++ [')']) = some arguments := beforeEnd?_eq_some.mpr rfl
  rw [split?, typeName.takeWhile_append (by decide), typeName.dropWhile_append (by decide)]
  simp [ended, typeName.trimEnd_eq, typeName.trimmed, typeName.isName, closedOnce]

/-- A name with an element type in angle brackets. -/
theorem split?_element
    (typeName : IsTypeName name)
    {element : List Char}
    (oneLine : '\n' ∉ element) :
    split? (name ++ '<' :: (element ++ ['>'])) = some ⟨name, [], some (trim element)⟩ := by
  have ended : beforeEnd? ['>'] (element ++ ['>']) = some element := beforeEnd?_eq_some.mpr rfl
  rw [split?, typeName.takeWhile_append (by decide), typeName.dropWhile_append (by decide)]
  simp [ended, typeName.trimEnd_eq, typeName.trimmed, typeName.isName, oneLine]

end IsTypeName

/-- The normal form of a text that ends with a bracket which an earlier one opens. -/
theorem normalise_enclosed
    {text : String}
    {name inner : List Char}
    {opening closing : Char}
    (whole : text.toList = name ++ opening :: (inner ++ [closing]))
    (starts : trimStart name = name)
    (openingNeutral : isNeutral opening = true)
    (openingShown : isBlank opening = false)
    (closingNeutral : isNeutral closing = true)
    (closingShown : isBlank closing = false) :
    normalise text = lower name ++ opening :: (lower inner ++ [closing]) := by
  have trimmed : trim text.toList = text.toList := by
    refine trim_of_ends ?_ ?_
    · rw [whole, trimStart_append_cons name openingShown, starts]
    · rw [whole, ← List.cons_append, ← List.append_assoc, trimEnd_concat_of_not_blank _ closingShown]
  rw [normalise, trimmed, whole, lower_append_cons name openingNeutral,
    lower_concat inner closingNeutral]

/-- A name with arguments in parentheses is read by its name and its arguments. -/
theorem read_arguments
    {text : String}
    {name arguments : List Char}
    (whole : text.toList = name ++ '(' :: (arguments ++ [')']))
    (starts : trimStart name = name)
    (typeName : IsTypeName (lower name))
    (closedOnce : ')' ∉ arguments) :
    read text = Parts.type (fun element => read (String.ofList element))
      ⟨lower name, argumentList (lower arguments), none⟩ := by
  have normal := normalise_enclosed whole starts (by decide) (by decide) (by decide) (by decide)
  have closedOnceLower : ')' ∉ lower arguments := by
    rw [mem_lower_iff (by decide) (by decide)]
    exact closedOnce
  have noSuffix : beforeEnd? ['[', ']'] (normalise text) = none := by
    rw [normal, ← List.cons_append, ← List.append_assoc]
    exact beforeEnd?_concat _ (by decide)
  rw [read_eq, noSuffix, normal, typeName.split?_arguments closedOnceLower]

/-! ## Arrays -/

/-- The text before an empty pair of square brackets is read as the element type. -/
theorem read_suffixed (text : String) : read (text ++ "[]") = .array (read text) := by
  have whole : (text ++ "[]").toList = text.toList ++ '[' :: [']'] := by
    rw [String.toList_append]
    rfl
  have trimmed : trim (text ++ "[]").toList = trimStart text.toList ++ '[' :: [']'] := by
    rw [whole, trim, trimStart_append_cons _ (by decide), List.append_cons,
      trimEnd_concat_of_not_blank _ (by decide)]
  have normal : normalise (text ++ "[]") = lower (trimStart text.toList) ++ ['[', ']'] := by
    rw [normalise, trimmed, lower_append_cons _ (by decide), lower_cons (by decide), lower_nil]
  have inside : beforeEnd? ['[', ']'] (normalise (text ++ "[]")) =
      some (lower (trimStart text.toList)) :=
    beforeEnd?_eq_some.mpr normal
  rw [read_eq, inside]
  refine congrArg DataType.array (read_congr ?_)
  rw [normalise_ofList, trim_lower, lower_lower, trim_trimStart, normalise]

/-- The text between angle brackets after the name of arrays is read as the element type. -/
theorem read_bracketed
    {text : String}
    (oneLine : '\n' ∉ text.toList) :
    read ("ARRAY<" ++ text ++ ">") = .array (read text) := by
  have whole : ("ARRAY<" ++ text ++ ">").toList =
      "ARRAY".toList ++ '<' :: (text.toList ++ ['>']) := by
    rw [String.toList_append, String.toList_append]
    rfl
  have normal := normalise_enclosed whole (by decide) (by decide) (by decide) (by decide) (by decide)
  have typeName : IsTypeName (lower "ARRAY".toList) := ⟨by decide, by decide⟩
  have oneLineLower : '\n' ∉ lower text.toList := by
    rw [mem_lower_iff (by decide) (by decide)]
    exact oneLine
  have noSuffix : beforeEnd? ['[', ']'] (normalise ("ARRAY<" ++ text ++ ">")) = none := by
    rw [normal, ← List.cons_append, ← List.append_assoc]
    exact beforeEnd?_concat _ (by decide)
  have isArray : family? (lower "ARRAY".toList) = some .array := by decide +kernel
  rw [read_eq, noSuffix, normal, typeName.split?_element oneLineLower]
  simp only [Parts.type, isArray]
  refine congrArg DataType.array (read_congr ?_)
  rw [normalise_ofList, trim_trim, trim_lower, lower_lower, normalise]

/-! ## Padding and case -/

/-- Blanks around a text and the case of its ASCII letters do not change its normal form. -/
theorem normalise_surround
    {front back text varied : String}
    (frontBlank : ∀ character ∈ front.toList, isBlank character = true)
    (backBlank : ∀ character ∈ back.toList, isBlank character = true)
    (sameLetters : varied.toLower = text.toLower) :
    normalise (front ++ varied ++ back) = normalise text := by
  have sameList : (varied.map Char.toLower).toList = (text.map Char.toLower).toList :=
    congrArg String.toList sameLetters
  rw [String.toList_map, String.toList_map] at sameList
  have unpadded : trim (front ++ varied ++ back).toList = trim varied.toList := by
    rw [String.toList_append, String.toList_append, trim_surround frontBlank _ backBlank]
  calc
    normalise (front ++ varied ++ back) = lower ((trim varied.toList).map Char.toLower) := by
      rw [normalise, unpadded, lower_map_toLower]
    _ = lower ((trim text.toList).map Char.toLower) := by
      rw [← trim_map_toLower, sameList, trim_map_toLower]
    _ = normalise text := by
      rw [lower_map_toLower, normalise]

/-- Both spellings of an array compose with every text, the bracketed one with every text on one line,
and neither blanks around a text nor the case of its ASCII letters matter. -/
theorem array_spellings_compose (text : String) :
    read (text ++ "[]") = .array (read text) ∧
      ('\n' ∉ text.toList → read ("ARRAY<" ++ text ++ ">") = .array (read text)) ∧
        ∀ front varied back : String,
          (∀ character ∈ front.toList, isBlank character = true) →
            (∀ character ∈ back.toList, isBlank character = true) →
              varied.toLower = text.toLower →
                read (front ++ varied ++ back) = read text := by
  refine ⟨read_suffixed text, read_bracketed, ?_⟩
  intro front varied back frontBlank backBlank sameLetters
  exact read_congr (normalise_surround frontBlank backBlank sameLetters)

/-- An array of arrays whose text has brackets, parentheses and a capital sigma of its own. -/
theorem array_spellings_compose_on_nested :
    let text := "Array<Numeric( 10,2 )[]>[Σ"
    let varied := "aRRAY<nUMERIC( 10,2 )[]>[Σ"
    '\n' ∉ text.toList ∧ varied.toLower = text.toLower ∧
      (∀ character ∈ "\t\n".toList, isBlank character = true) ∧
        read (text ++ "[]") = .array (read text) ∧
          read ("ARRAY<" ++ text ++ ">") = .array (read text) ∧
            read ("\t\n" ++ varied ++ "\t\n") = read text := by
  intro text varied
  have oneLine : '\n' ∉ text.toList := by decide
  have sameLetters : varied.toLower = text.toLower := by
    have sameList : (varied.map Char.toLower).toList = (text.map Char.toLower).toList := by
      rw [String.toList_map, String.toList_map]
      decide
    exact String.toList_inj.mp sameList
  have blank : ∀ character ∈ "\t\n".toList, isBlank character = true :=
    List.forall_mem_cons.mpr ⟨by decide, List.forall_mem_singleton.mpr (by decide)⟩
  obtain ⟨suffixed, bracketed, alike⟩ := array_spellings_compose text
  exact ⟨oneLine, sameLetters, blank, suffixed, bracketed oneLine,
    alike "\t\n" varied "\t\n" blank blank sameLetters⟩

end DataType
end CatalogIngest
