import CatalogIngest.Proofs.Ingest.Execution
import Mathlib.Data.List.Forall2

/-!
# Requests of two runs compared

Catalogs number their entities on their own, so requests of two runs are compared up to identities:
references correspond when they lead, each in its own catalog, to entities of the same kind and full
name. Requests correspond when their references do and all else is equal.
-/

namespace CatalogIngest
namespace Store

/-- Two references, each of a catalog of its own, lead to entities of one kind and full name. -/
def SameReferent (left right : Store) (first second : EntityReference) : Prop :=
  ∃ kind fullName, left.referenceTo? kind fullName = some first ∧
    right.referenceTo? kind fullName = some second

/-- Edges that lead from and to the same entities. -/
structure SameEdge (left right : Store) (first second : LineageRequest) : Prop where
  source : SameReferent left right first.edge.source second.edge.source
  target : SameReferent left right first.edge.target second.edge.target

/-- Case requests that are equal but for the identities of the definition and the suite. -/
structure SameCase (left right : Store) (first second : CaseRequest) : Prop where
  name : first.name = second.name
  description : first.description = second.description
  link : first.link = second.link
  parameters : first.parameters = second.parameters
  definition : SameReferent left right first.definition second.definition
  suite : SameReferent left right first.suite second.suite

/-- References of an older catalog lead to the same names in a newer one. -/
def KeepsReferences (older newer : Store) : Prop :=
  ∀ kind fullName reference, older.referenceTo? kind fullName = some reference →
    newer.referenceTo? kind fullName = some reference

theorem Extends.keepsReferences
    {older newer : Store}
    (extended : older.Extends newer) :
    older.KeepsReferences newer :=
  fun _ _ _ => extended.referenceTo?

theorem KeepsReferences.trans_answersLike
    {older newer model : Store}
    (kept : older.KeepsReferences model)
    (alike : newer.AnswersLike model) :
    older.KeepsReferences newer := by
  intro kind fullName reference known
  rw [alike.referenceTo?]
  exact kept kind fullName reference known

section Later

variable
  {left right laterLeft laterRight : Store}
  (leftKept : left.KeepsReferences laterLeft)
  (rightKept : right.KeepsReferences laterRight)

include leftKept rightKept

theorem SameReferent.later
    {first second : EntityReference}
    (same : SameReferent left right first second) :
    SameReferent laterLeft laterRight first second := by
  obtain ⟨kind, fullName, firstKnown, secondKnown⟩ := same
  exact ⟨kind, fullName, leftKept _ _ _ firstKnown, rightKept _ _ _ secondKnown⟩

theorem SameEdge.later
    {first second : LineageRequest}
    (same : SameEdge left right first second) :
    SameEdge laterLeft laterRight first second :=
  ⟨same.source.later leftKept rightKept, same.target.later leftKept rightKept⟩

theorem SameCase.later
    {first second : CaseRequest}
    (same : SameCase left right first second) :
    SameCase laterLeft laterRight first second :=
  ⟨same.name, same.description, same.link, same.parameters,
    same.definition.later leftKept rightKept, same.suite.later leftKept rightKept⟩

end Later

/-- Look-ups in two catalogs either both find an entity, each its own, or both find none. -/
theorem found?_cases
    {left right : Store}
    {kind : EntityKind}
    {fullName : String}
    (alike : (left.found? kind fullName).isSome = (right.found? kind fullName).isSome) :
    (∃ first second, left.found? kind fullName = some first ∧
        right.found? kind fullName = some second ∧
          SameReferent left right first.reference second.reference) ∨
      (left.found? kind fullName = none ∧ right.found? kind fullName = none) := by
  cases leftFound : left.found? kind fullName with
  | none =>
      rw [leftFound] at alike
      exact .inr ⟨rfl, Option.isSome_eq_false_iff.mp alike.symm |> Option.isNone_iff_eq_none.mp⟩
  | some first =>
      rw [leftFound] at alike
      obtain ⟨second, rightFound⟩ := Option.isSome_iff_exists.mp alike.symm
      exact .inl ⟨first, second, rfl, rightFound, kind, fullName,
        referenceTo?_of_found? leftFound, referenceTo?_of_found? rightFound⟩

/-! ## Lists of requests -/

/-- What is made of the items of one list twice corresponds if what is made of each item does. -/
theorem forall₂_filterMap
    {ι α β : Type}
    {relates : α → β → Prop}
    {first : ι → Option α}
    {second : ι → Option β}
    (items : List ι)
    (related : ∀ item ∈ items, Option.Rel relates (first item) (second item)) :
    List.Forall₂ relates (items.filterMap first) (items.filterMap second) := by
  have itself : List.Forall₂ (fun left right => left = right ∧ left ∈ items) items items :=
    List.forall₂_same.mpr fun item member => ⟨rfl, member⟩
  refine List.rel_filterMap ?_ itself
  rintro item _ ⟨rfl, member⟩
  exact related item member

theorem forall₂_flatMap
    {ι α β : Type}
    {relates : α → β → Prop}
    {first : ι → List α}
    {second : ι → List β}
    (items : List ι)
    (related : ∀ item ∈ items, List.Forall₂ relates (first item) (second item)) :
    List.Forall₂ relates (items.flatMap first) (items.flatMap second) := by
  have itself : List.Forall₂ (fun left right => left = right ∧ left ∈ items) items items :=
    List.forall₂_same.mpr fun item member => ⟨rfl, member⟩
  refine List.rel_flatMap itself ?_
  rintro item _ ⟨rfl, member⟩
  exact related item member

/-- Edges of one pair correspond when look-ups in both catalogs find the same of its tables. -/
theorem rel_edgeOf
    {left right : Store}
    (leftSound : left.Sound)
    (rightSound : right.Sound)
    (pair : LineagePair)
    (alike : ∀ fullName,
      (left.found? .table fullName).isSome = (right.found? .table fullName).isSome) :
    Option.Rel (SameEdge left right) (left.edgeOf pair) (right.edgeOf pair) := by
  unfold edgeOf
  obtain ⟨source, otherSource, leftSource, rightSource, sources⟩ | ⟨leftSource, rightSource⟩ :=
    found?_cases (alike pair.parent)
  · obtain ⟨target, otherTarget, leftTarget, rightTarget, targets⟩ | ⟨leftTarget, rightTarget⟩ :=
      found?_cases (alike pair.model)
    · rw [leftSound.reference_of_found? leftSource,
        rightSound.reference_of_found? rightSource] at sources
      rw [leftSound.reference_of_found? leftTarget,
        rightSound.reference_of_found? rightTarget] at targets
      rw [leftSource, rightSource, leftTarget, rightTarget]
      exact .some ⟨sources, targets⟩
    · rw [leftSource, rightSource, leftTarget, rightTarget]
      exact .none
  · rw [leftSource, rightSource]
    exact .none

end Store

namespace TestMapping

/-- Parts of cases that correspond. -/
structure SameParts (left right : Store) (first second : CaseParts) : Prop where
  parameters : first.parameters = second.parameters
  definition : left.SameReferent right first.definition second.definition
  suite : left.SameReferent right first.suite second.suite

/-- What the cases of a test share corresponds when look-ups in both catalogs find the same of its
definition and its suite. -/
theorem rel_partsIn
    {left right : Store}
    (test : ManifestNode)
    (definitions : (left.found? .testDefinition test.name).isSome =
      (right.found? .testDefinition test.name).isSome)
    (suites : (left.found? .testSuite test.suiteName).isSome =
      (right.found? .testSuite test.suiteName).isSome) :
    Option.Rel (SameParts left right) (partsIn left test) (partsIn right test) := by
  unfold partsIn
  cases test.testMetadata with
  | none => exact .none
  | some metadata =>
      dsimp only [Option.bind]
      obtain ⟨first, second, leftDefinition, rightDefinition, sameDefinition⟩ |
        ⟨leftDefinition, rightDefinition⟩ := Store.found?_cases definitions
      · obtain ⟨firstSuite, secondSuite, leftSuite, rightSuite, sameSuite⟩ |
          ⟨leftSuite, rightSuite⟩ := Store.found?_cases suites
        · rw [leftDefinition, rightDefinition, leftSuite, rightSuite]
          exact .some ⟨rfl, sameDefinition, sameSuite⟩
        · rw [leftDefinition, rightDefinition, leftSuite, rightSuite]
          exact .none
      · rw [leftDefinition, rightDefinition]
        exact .none

/-- The cases of a test correspond when what they share does. -/
theorem forall₂_casesOf
    {left right : Store}
    (mapping : TestMapping Store)
    (service : String)
    (test : ManifestNode)
    (parts : Option.Rel (SameParts left right) (partsIn left test) (partsIn right test)) :
    List.Forall₂ (left.SameCase right) (mapping.casesOf service left test)
      (mapping.casesOf service right test) := by
  unfold casesOf
  revert parts
  generalize partsIn left test = leftParts
  generalize partsIn right test = rightParts
  intro parts
  cases parts with
  | none => exact .nil
  | some same =>
      rw [List.forall₂_map_left_iff, List.forall₂_map_right_iff, List.forall₂_same]
      intro node _
      exact ⟨rfl, rfl, rfl, same.parameters, same.definition, same.suite⟩

end TestMapping
end CatalogIngest
