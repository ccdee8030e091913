import CatalogIngest.Proofs.Catalog.CaseName

/-!
# Dotted names are read in one way

As long as no part has a double quote in it, a part stands in a dotted name either as it is, without
dots, or between two quotes. So the parts can be told from the name: the first part ends at the next
quote where the name begins with one, and at the first dot elsewhere. The search for the last dot
outside quotes stops before the last part.
-/

namespace CatalogIngest
namespace Name

/-- No part has a double quote in it. -/
def QuoteFree (parts : List String) : Prop :=
  ∀ part ∈ parts, '"' ∉ part.toList

instance (parts : List String) : Decidable (QuoteFree parts) :=
  inferInstanceAs (Decidable (∀ part ∈ parts, '"' ∉ part.toList))

/-! ## One part -/

theorem quoteChars_of_plain
    {part : List Char}
    (plain : '.' ∉ part) :
    quoteChars part = part := by
  simp [quoteChars, plain]

theorem quoteChars_of_dotted
    {part : List Char}
    (unquoted : '"' ∉ part)
    (dotted : '.' ∈ part) :
    quoteChars part = '"' :: part ++ ['"'] := by
  have bare : isQuoted part = false := by
    cases part with
    | nil => rfl
    | cons first later =>
        have different : first ≠ '"' := fun same => unquoted (by simp [same])
        simp [isQuoted, different]
  simp [quoteChars, dotted, bare]

/-- Two texts agree up to the first place of a mark and behind it. -/
theorem append_mark_inj
    {mark : Char}
    {first second firstRest secondRest : List Char}
    (notInFirst : mark ∉ first)
    (notInSecond : mark ∉ second)
    (same : first ++ mark :: firstRest = second ++ mark :: secondRest) :
    first = second ∧ firstRest = secondRest := by
  induction first generalizing second with
  | nil =>
      cases second with
      | nil => exact ⟨rfl, (List.cons.inj same).2⟩
      | cons character later =>
          exact absurd (List.mem_cons.mpr (.inl (List.cons.inj same).1)) notInSecond
  | cons character later inductionHypothesis =>
      cases second with
      | nil => exact absurd (List.mem_cons.mpr (.inl (List.cons.inj same).1.symm)) notInFirst
      | cons other rest =>
          obtain ⟨rfl, sameRest⟩ := List.cons.inj same
          obtain ⟨rfl, sameLast⟩ := inductionHypothesis
            (fun member => notInFirst (List.mem_cons_of_mem _ member))
            (fun member => notInSecond (List.mem_cons_of_mem _ member)) sameRest
          exact ⟨rfl, sameLast⟩

/-- A part without quotes does not begin like a part between quotes. -/
theorem plain_ne_quoted
    {plain plainRest quoted : List Char}
    (unquoted : '"' ∉ plain) :
    plain ++ '.' :: plainRest ≠ '"' :: quoted := by
  cases plain with
  | nil => simp
  | cons first later =>
      have different : first ≠ '"' := fun same => unquoted (by simp [same])
      simp [different]

/-- A part that stands before a dot can be told from the text. -/
theorem quoteChars_dot_inj
    {first second firstRest secondRest : List Char}
    (firstUnquoted : '"' ∉ first)
    (secondUnquoted : '"' ∉ second)
    (same : quoteChars first ++ '.' :: firstRest = quoteChars second ++ '.' :: secondRest) :
    first = second ∧ firstRest = secondRest := by
  by_cases firstDotted : '.' ∈ first <;> by_cases secondDotted : '.' ∈ second
  · rw [quoteChars_of_dotted firstUnquoted firstDotted,
      quoteChars_of_dotted secondUnquoted secondDotted] at same
    simp only [List.cons_append, List.append_assoc, List.nil_append, List.cons.injEq,
      true_and] at same
    obtain ⟨sameParts, sameRests⟩ := append_mark_inj firstUnquoted secondUnquoted same
    exact ⟨sameParts, (List.cons.inj sameRests).2⟩
  · rw [quoteChars_of_dotted firstUnquoted firstDotted, quoteChars_of_plain secondDotted] at same
    exact absurd same.symm (plain_ne_quoted secondUnquoted)
  · rw [quoteChars_of_plain firstDotted, quoteChars_of_dotted secondUnquoted secondDotted] at same
    exact absurd same (plain_ne_quoted firstUnquoted)
  · rw [quoteChars_of_plain firstDotted, quoteChars_of_plain secondDotted] at same
    exact append_mark_inj firstDotted secondDotted same

/-! ## All parts -/

/-- With a dot behind every part a name is a list of parts that each end in a dot. -/
theorem joinChars_append_dot
    {parts : List (List Char)}
    (nonempty : parts ≠ []) :
    joinChars parts ++ ['.'] = parts.flatMap fun part => quoteChars part ++ ['.'] := by
  induction parts with
  | nil => exact absurd rfl nonempty
  | cons first later inductionHypothesis =>
      cases later with
      | nil => simp
      | cons second later =>
          rw [joinChars_cons_cons, List.flatMap_cons, ← inductionHypothesis (List.cons_ne_nil _ _)]
          simp

theorem flatMap_quoteChars_inj
    {first second : List (List Char)}
    (firstUnquoted : ∀ part ∈ first, '"' ∉ part)
    (secondUnquoted : ∀ part ∈ second, '"' ∉ part)
    (same : (first.flatMap fun part => quoteChars part ++ ['.']) =
      second.flatMap fun part => quoteChars part ++ ['.']) :
    first = second := by
  induction first generalizing second with
  | nil =>
      cases second with
      | nil => rfl
      | cons part later => simp at same
  | cons part later inductionHypothesis =>
      cases second with
      | nil => simp at same
      | cons other rest =>
          obtain ⟨unquoted, laterUnquoted⟩ := List.forall_mem_cons.mp firstUnquoted
          obtain ⟨otherUnquoted, restUnquoted⟩ := List.forall_mem_cons.mp secondUnquoted
          simp only [List.flatMap_cons, List.append_assoc, List.singleton_append] at same
          obtain ⟨rfl, sameRest⟩ := quoteChars_dot_inj unquoted otherUnquoted same
          rw [inductionHypothesis laterUnquoted restUnquoted sameRest]

theorem QuoteFree.toList
    {parts : List String}
    (unquoted : QuoteFree parts) :
    ∀ part ∈ parts.map String.toList, '"' ∉ part :=
  List.forall_mem_map.mpr unquoted

/-- Lists of parts with the same dotted name are the same. -/
theorem join_inj
    {first second : List String}
    (firstNonempty : first ≠ [])
    (secondNonempty : second ≠ [])
    (firstUnquoted : QuoteFree first)
    (secondUnquoted : QuoteFree second)
    (same : join first = join second) :
    first = second := by
  have sameChars : joinChars (first.map String.toList) = joinChars (second.map String.toList) :=
    String.ofList_injective same
  have sameDotted := congrArg (fun text => text ++ ['.']) sameChars
  rw [joinChars_append_dot (mt List.map_eq_nil_iff.mp firstNonempty),
    joinChars_append_dot (mt List.map_eq_nil_iff.mp secondNonempty)] at sameDotted
  have sameLists := flatMap_quoteChars_inj firstUnquoted.toList secondUnquoted.toList sameDotted
  exact List.map_injective_iff.mpr (fun _ _ => String.toList_inj.mp) sameLists

/-! ## The last part -/

/-- The search passes over a text without quotes, and without dots unless a quote is open. -/
theorem lastPieceFrom_append
    {inside : Bool}
    {text : List Char}
    (unquoted : '"' ∉ text)
    (undotted : inside = true ∨ '.' ∉ text)
    (piece rest : List Char) :
    lastPieceFrom inside piece (text ++ rest) =
      lastPieceFrom inside (text.reverse ++ piece) rest := by
  induction text generalizing piece with
  | nil => rfl
  | cons character later inductionHypothesis =>
      obtain ⟨notQuote, laterUnquoted⟩ := not_or.mp (mt List.mem_cons.mpr unquoted)
      have notDot : ¬ (character = '.' ∧ inside = false) := by
        rintro ⟨rfl, outside⟩
        simp [outside] at undotted
      rw [List.cons_append, lastPieceFrom, if_neg (Ne.symm notQuote), if_neg notDot,
        inductionHypothesis laterUnquoted
          (undotted.imp_right (mt (List.mem_cons_of_mem character)))]
      simp

/-- The search passes over a whole part. -/
theorem lastPieceFrom_quoteChars
    {part : List Char}
    (unquoted : '"' ∉ part)
    (piece rest : List Char) :
    lastPieceFrom false piece (quoteChars part ++ rest) =
      lastPieceFrom false ((quoteChars part).reverse ++ piece) rest := by
  by_cases dotted : '.' ∈ part
  · have within : lastPieceFrom true ('"' :: piece) (part ++ '"' :: rest) =
        lastPieceFrom true (part.reverse ++ '"' :: piece) ('"' :: rest) :=
      lastPieceFrom_append unquoted (.inl rfl) _ _
    rw [quoteChars_of_dotted unquoted dotted, List.append_assoc, List.cons_append, lastPieceFrom,
      if_pos rfl, Bool.not_false, List.singleton_append, within, lastPieceFrom, if_pos rfl,
      Bool.not_true]
    simp
  · rw [quoteChars_of_plain dotted]
    exact lastPieceFrom_append unquoted (.inr dotted) piece rest

/-- The search arrives at the last part as it stands in the name. -/
theorem lastPieceFrom_joinChars
    {parts : List (List Char)}
    (nonempty : parts ≠ [])
    (unquoted : ∀ part ∈ parts, '"' ∉ part) :
    lastPieceFrom false [] (joinChars parts) = quoteChars (parts.getLast nonempty) := by
  induction parts with
  | nil => exact absurd rfl nonempty
  | cons first later inductionHypothesis =>
      obtain ⟨firstUnquoted, laterUnquoted⟩ := List.forall_mem_cons.mp unquoted
      cases later with
      | nil =>
          have passed := lastPieceFrom_quoteChars firstUnquoted [] []
          rw [List.append_nil] at passed
          rw [joinChars_singleton, passed]
          simp [lastPieceFrom]
      | cons second later =>
          rw [joinChars_cons_cons, lastPieceFrom_quoteChars firstUnquoted, lastPieceFrom,
            if_neg (by decide), if_pos ⟨rfl, rfl⟩,
            inductionHypothesis (List.cons_ne_nil _ _) laterUnquoted,
            List.getLast_cons (List.cons_ne_nil second later)]

/-- A text that begins with a part without quotes has none to remove at its start. -/
theorem dropWhile_quotes
    {part : List Char}
    (unquoted : '"' ∉ part)
    (nonempty : part ≠ [])
    (rest : List Char) :
    (part ++ rest).dropWhile (· = '"') = part ++ rest := by
  cases part with
  | nil => exact absurd rfl nonempty
  | cons first later =>
      have different : first ≠ '"' := fun same => unquoted (by simp [same])
      simp [different]

/-- Removing the quotes around a part gives the part back. -/
theorem unquoteChars_quoteChars
    {part : List Char}
    (unquoted : '"' ∉ part) :
    unquoteChars (quoteChars part) = part := by
  by_cases empty : part = []
  · rw [empty]
    rfl
  have atStart := dropWhile_quotes unquoted empty
  have atEnd := dropWhile_quotes (mt List.mem_reverse.mp unquoted)
    (mt List.reverse_eq_nil_iff.mp empty) []
  rw [List.append_nil] at atEnd
  by_cases dotted : '.' ∈ part
  · have opened : ('"' :: (part ++ ['"'])).dropWhile (· = '"') = part ++ ['"'] := by
      rw [List.dropWhile_cons_of_pos (by simp), atStart]
    have closed : (part ++ ['"']).reverse.dropWhile (· = '"') = part.reverse := by
      rw [List.reverse_append, List.reverse_singleton, List.singleton_append,
        List.dropWhile_cons_of_pos (by simp), atEnd]
    rw [quoteChars_of_dotted unquoted dotted, unquoteChars, List.cons_append, opened, closed,
      List.reverse_reverse]
  · have opened := atStart []
    rw [List.append_nil] at opened
    rw [quoteChars_of_plain dotted, unquoteChars, opened, atEnd, List.reverse_reverse]

/-- The last part of a joined name is the last of its parts. -/
theorem lastPart_join
    {parts : List String}
    (nonempty : parts ≠ [])
    (unquoted : QuoteFree parts) :
    lastPart (join parts) = parts.getLast nonempty := by
  have nonemptyChars : parts.map String.toList ≠ [] := mt List.map_eq_nil_iff.mp nonempty
  have lastUnquoted := unquoted.toList _ (List.getLast_mem nonemptyChars)
  rw [lastPart, join, String.toList_ofList, lastPartChars,
    lastPieceFrom_joinChars nonemptyChars unquoted.toList, unquoteChars_quoteChars lastUnquoted,
    List.getLast_map, String.ofList_toList]

end Name

/-! ## Requests for names -/

namespace NameRequest

/-- The request of a kind for a place in the hierarchy that has the given parts. -/
def ofHierarchy? : EntityKind → List String → Option NameRequest
  | .table, [service, database, schema, name] => some (.table service database schema name)
  | .dataModel, [service, database, schema, name] =>
      some (.dataModel service database schema name)
  | .testCase, [service, database, schema, name, testName] =>
      some (.testCase service database schema name none testName)
  | .testCase, [service, database, schema, name, column, testName] =>
      some (.testCase service database schema name (some column) testName)
  | _, _ => none

/-- The request asks for a place in the hierarchy, and none of its keys has a double quote in it. -/
def HasPlainKeys (request : NameRequest) : Prop :=
  ∃ parts, request.hierarchy? = some parts ∧ Name.QuoteFree parts

/-- A request can be told from its kind and its parts: whether a test case has a column shows in the
number of parts. -/
theorem ofHierarchy?_hierarchy?
    {request : NameRequest}
    {parts : List String}
    (listed : request.hierarchy? = some parts) :
    ofHierarchy? request.kind parts = some request := by
  cases request with
  | table => cases listed; rfl
  | dataModel => cases listed; rfl
  | testCase service database schema name column testName =>
      cases column with
      | none => cases listed; rfl
      | some column => cases listed; rfl
  | user => nomatch listed
  | team => nomatch listed

theorem ne_nil_of_hierarchy?
    {request : NameRequest}
    {parts : List String}
    (listed : request.hierarchy? = some parts) :
    parts ≠ [] := by
  rintro rfl
  cases request <;> simp [hierarchy?] at listed

end NameRequest

/-- Full names are unambiguous as long as no part has a double quote in it, whatever dots and empty
parts there are: parts with the same joined name are the same; requests of one kind for which the
in-memory catalog builds the same name are the same; and the display name taken from a joined name is
the last of its parts. -/
theorem Name.full_names_unambiguous :
    (∀ first second : List String, first ≠ [] → second ≠ [] →
        QuoteFree first → QuoteFree second → join first = join second → first = second) ∧
      (∀ (earlier later : Store) (first second : NameRequest), first.kind = second.kind →
        first.HasPlainKeys → second.HasPlainKeys →
          earlier.build first = later.build second → first = second) ∧
      ∀ (parts : List String) (nonempty : parts ≠ []), QuoteFree parts →
        lastPart (join parts) = parts.getLast nonempty := by
  refine ⟨fun _ _ => join_inj, ?_, fun _ => lastPart_join⟩
  intro earlier later first second sameKind
  rintro ⟨firstParts, firstListed, firstPlain⟩ ⟨secondParts, secondListed, secondPlain⟩ sameName
  rw [Store.build, Store.build, firstListed, secondListed] at sameName
  have sameParts := join_inj (NameRequest.ne_nil_of_hierarchy? firstListed)
    (NameRequest.ne_nil_of_hierarchy? secondListed) firstPlain secondPlain
    (Option.some.inj sameName)
  have told := NameRequest.ofHierarchy?_hierarchy? firstListed
  rw [sameKind, sameParts, NameRequest.ofHierarchy?_hierarchy? secondListed] at told
  exact (Option.some.inj told).symm

/-- Dots within parts and an empty part do not mislead the search for the last part. -/
theorem Name.full_names_unambiguous_on_dotted :
    QuoteFree ["svc", "my.db", "", "a.b"] ∧
      join ["svc", "my.db", "", "a.b"] = "svc.\"my.db\"..\"a.b\"" ∧
        lastPart "svc.\"my.db\"..\"a.b\"" = "a.b" := by
  have plain : QuoteFree ["svc", "my.db", "", "a.b"] := by decide
  have joined : join ["svc", "my.db", "", "a.b"] = "svc.\"my.db\"..\"a.b\"" := by decide
  refine ⟨plain, joined, ?_⟩
  rw [← joined]
  exact full_names_unambiguous.2.2 _ (List.cons_ne_nil _ _) plain

end CatalogIngest
