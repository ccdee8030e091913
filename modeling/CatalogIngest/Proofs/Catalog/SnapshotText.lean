import CatalogIngest.Catalog.Snapshot
import CatalogIngest.Proofs.Json.ReadingBack

/-!
# Saved snapshots

The text of a snapshot is read back as the same snapshot, whatever names it lists.
-/

namespace CatalogIngest
namespace Json

/-- The document of an array of strings. -/
def Document.ofTexts (texts : List String) : Document :=
  .array (texts.map fun text => .string (some text))

theorem Value.writes_ofStrings
    (texts : List String) :
    (Value.ofStrings texts).Writes (.ofTexts texts) := by
  apply writes_array
  rw [List.forall₂_map_left_iff, List.forall₂_map_right_iff, List.forall₂_same]
  exact fun text _ => writes_string text

theorem Document.toTexts?_ofTexts
    (texts : List String) :
    toTexts? (.ofTexts texts) = some texts := by
  change (texts.map fun text => Document.string (some text)).mapM toText? = some texts
  induction texts with
  | nil => rfl
  | cons text later inductionHypothesis =>
      rw [List.map_cons, List.mapM_cons, inductionHypothesis]
      rfl

end Json

namespace Snapshot

/-- The members of a saved snapshot. -/
def members (snapshot : Snapshot) : List (String × List String) :=
  [("tables", snapshot.tables), ("users", snapshot.users), ("teams", snapshot.teams),
    ("test_suites", snapshot.testSuites), ("test_definitions", snapshot.testDefinitions),
    ("test_cases", snapshot.testCases)]

theorem writes_encode
    (snapshot : Snapshot) :
    snapshot.encode.Writes
      (.object (snapshot.members.map fun member => (some member.1, .ofTexts member.2))) := by
  have written : List.Forall₂
      (fun member document => member.1 = document.1 ∧ Json.Value.Writes member.2 document.2)
      (snapshot.members.map fun member => (member.1, Json.Value.ofStrings member.2))
      (snapshot.members.map fun member => (member.1, Json.Document.ofTexts member.2)) := by
    rw [List.forall₂_map_left_iff, List.forall₂_map_right_iff, List.forall₂_same]
    exact fun member _ => ⟨rfl, Json.Value.writes_ofStrings member.2⟩
  have whole := Json.Value.writes_object written
  rw [List.map_map] at whole
  exact whole

/-- A saved snapshot is read back as it was. -/
theorem read?_text
    (snapshot : Snapshot) :
    read? snapshot.text = some snapshot := by
  rw [read?, text, snapshot.writes_encode.read?_pretty]
  simp [ofDocument?, members, Json.Document.fieldParts?, Json.Document.partOr?,
    Json.Document.toTexts?_ofTexts]

end Snapshot
end CatalogIngest
