import CatalogIngest.Proofs.Ingest.NodeIndependence

/-!
# The columns of a data model

Every column of a relation that decodes becomes one column of the data model, and every other one is
reported. The columns of the data model stand in order of their positions; as the relation's columns
come in key order and sorting is stable, columns of equal positions stand in key order.
-/

namespace CatalogIngest

namespace CatalogColumn

/-- A column of a relation becomes a column of a data model: its name is lower-cased, its type is
read from its text, its length is the placeholder and its position is its index. -/
structure Becomes (readType : String → DataType) (found : CatalogColumn) (column : Column) :
    Prop where
  name : column.name = Text.lowerString found.name
  dataType : column.dataType = readType found.dataType
  dataLength : column.dataLength = 1
  position : column.position = found.index

/-- Of two columns with their keys, the first has a lesser index, or the same index and a lesser
key. -/
def Precedes (first second : String × CatalogColumn) : Prop :=
  first.2.index < second.2.index ∨ first.2.index = second.2.index ∧ first.1 < second.1

theorem Precedes.index_le
    {first second : String × CatalogColumn}
    (precedes : Precedes first second) :
    first.2.index ≤ second.2.index := by
  rcases precedes with below | ⟨same, -⟩
  · exact UInt32.le_of_lt below
  · exact same ▸ UInt32.le_refl _

end CatalogColumn

namespace CatalogNode

/-- The columns of a relation that decode, with their keys, in key order. -/
def readableColumns (relation : CatalogNode) : List (String × CatalogColumn) :=
  relation.columns.entries.filterMap fun entry =>
    (CatalogColumn.decode .direct entry.2).toOption.map fun found => (entry.1, found)

/-- The keys of the columns that do not decode, in order, each with the reason. -/
def unreadableColumns (relation : CatalogNode) : List (String × Json.DecodeError) :=
  relation.columns.entries.filterMap fun entry =>
    match CatalogColumn.decode .direct entry.2 with
    | .ok _ => none
    | .error error => some (entry.1, error)

theorem keys_readableColumns_increasing
    (relation : CatalogNode) :
    relation.readableColumns.Pairwise fun first second => first.1 < second.1 := by
  apply relation.columns.increasing.filterMap
  intro first second below left leftRead right rightRead
  obtain ⟨_, -, rfl⟩ := Option.map_eq_some_iff.mp leftRead
  obtain ⟨_, -, rfl⟩ := Option.map_eq_some_iff.mp rightRead
  exact below

end CatalogNode

/-! ## Sorting by position -/

/-- A column is inserted behind columns whose positions are not greater and before the first one
whose position is. -/
theorem insertByPosition_split
    (column : Column)
    (columns : List Column) :
    ∃ before after, columns = before ++ after ∧
      insertByPosition column columns = before ++ column :: after ∧
      (∀ other ∈ before, other.position ≤ column.position) ∧
      ∀ first ∈ after.head?, column.position < first.position := by
  induction columns with
  | nil => exact ⟨[], [], rfl, rfl, by simp, by simp⟩
  | cons first later inductionHypothesis =>
      by_cases below : column.position < first.position
      · exact ⟨[], first :: later, rfl, by simp [insertByPosition, below], by simp, by simpa⟩
      · obtain ⟨before, after, split, inserted, notAbove, above⟩ := inductionHypothesis
        refine ⟨first :: before, after, by simp [split], ?_, ?_, above⟩
        · simp [insertByPosition, below, inserted]
        · exact List.forall_mem_cons.mpr ⟨UInt32.not_lt.mp below, notAbove⟩

theorem sortByPosition_concat
    (columns : List Column)
    (last : Column) :
    sortByPosition (columns ++ [last]) = insertByPosition last (sortByPosition columns) :=
  List.foldl_append

/-- Sorting the columns of entries in key order lists the entries by index, then by key. -/
theorem exists_listing_sortByPosition
    {place : String × CatalogColumn → Column}
    (placed : ∀ entry, (place entry).position = entry.2.index)
    {entries : List (String × CatalogColumn)}
    (increasing : entries.Pairwise fun first second => first.1 < second.1) :
    ∃ listed : List (String × CatalogColumn), listed.Perm entries ∧
      listed.Pairwise CatalogColumn.Precedes ∧
      sortByPosition (entries.map place) = listed.map place := by
  induction entries using List.reverseRecOn with
  | nil => exact ⟨[], .refl [], .nil, rfl⟩
  | append_singleton earlier last inductionHypothesis =>
      obtain ⟨increasingEarlier, -, belowLast⟩ := List.pairwise_append.mp increasing
      obtain ⟨listed, permuted, ordered, sorted⟩ := inductionHypothesis increasingEarlier
      obtain ⟨before, after, split, inserted, notAbove, above⟩ :=
        insertByPosition_split (place last) (listed.map place)
      obtain ⟨front, back, rfl, rfl, rfl⟩ := List.map_eq_append_iff.mp split
      obtain ⟨orderedFront, orderedBack, across⟩ := List.pairwise_append.mp ordered
      refine ⟨front ++ last :: back, ?_, ?_, ?_⟩
      · exact List.perm_middle.trans
          ((permuted.cons last).trans (List.perm_append_singleton last earlier).symm)
      · -- Those in front have lesser keys, and those behind begin with a greater index.
        have inFront : ∀ entry ∈ front, CatalogColumn.Precedes entry last := by
          intro entry member
          have notGreater := notAbove (place entry) (List.mem_map_of_mem member)
          rw [placed, placed] at notGreater
          have lesserKey : entry.1 < last.1 :=
            belowLast entry (permuted.mem_iff.mp (List.mem_append_left back member)) last
              List.mem_cons_self
          rcases UInt32.lt_or_eq_of_le notGreater with below | same
          · exact .inl below
          · exact .inr ⟨same, lesserKey⟩
        have behind : ∀ entry ∈ back, CatalogColumn.Precedes last entry := by
          cases back with
          | nil => simp
          | cons first rest =>
              have firstAbove := above (place first) rfl
              rw [placed, placed] at firstAbove
              refine List.forall_mem_cons.mpr ⟨.inl firstAbove, fun entry member => .inl ?_⟩
              have later := (List.pairwise_cons.mp orderedBack).1 entry member
              exact UInt32.lt_of_lt_of_le firstAbove later.index_le
        refine List.pairwise_append.mpr
          ⟨orderedFront, List.pairwise_cons.mpr ⟨behind, orderedBack⟩, ?_⟩
        intro entry member other among
        rcases List.mem_cons.mp among with rfl | inBack
        · exact inFront entry member
        · exact across entry member other inBack
      · rw [List.map_append, List.map_singleton, sortByPosition_concat, sorted, inserted,
          List.map_append, List.map_cons]

/-! ## The columns of a node -/

namespace ModelResolver

variable
  {σ : Type}
  (resolver : ModelResolver σ)
  (node : ManifestNode)
  (relation : CatalogNode)

/-- The failure for a column of a node's relation that does not decode. -/
def columnFailure (entry : String × Json.DecodeError) : Failure :=
  .shape .dataModel (node.uniqueId ++ "." ++ entry.1)
    ("malformed catalog column: " ++ entry.2.message)

theorem becomes_column
    (found : CatalogColumn) :
    found.Becomes resolver.context.readType (resolver.column node found) :=
  ⟨rfl, rfl, rfl, rfl⟩

theorem successes_columnOutcomes :
    successes (resolver.columnOutcomes node relation) =
      relation.readableColumns.map fun entry => resolver.column node entry.2 := by
  unfold columnOutcomes CatalogNode.decodedColumns CatalogNode.readableColumns
  rw [List.map_map, successes_map, List.map_filterMap]
  apply List.filterMap_congr
  intro entry _
  rw [Function.comp_apply]
  cases CatalogColumn.decode .direct entry.2 <;> rfl

theorem failuresAmong_columnOutcomes :
    failuresAmong (resolver.columnOutcomes node relation) =
      relation.unreadableColumns.map (columnFailure node) := by
  unfold failuresAmong columnOutcomes CatalogNode.decodedColumns CatalogNode.unreadableColumns
  rw [List.map_map, List.filterMap_map, List.map_filterMap]
  apply List.filterMap_congr
  intro entry _
  simp only [Function.comp_apply]
  cases CatalogColumn.decode .direct entry.2 <;> rfl

/-- What resolving a node reports begins with its columns that do not decode. -/
theorem columnFailures_prefix_reported
    (key : String)
    (state : σ) :
    (resolver.columns node (resolver.artifacts.catalog.get? key)).2 <+:
      (resolver.resolveNode key node state).1.reported := by
  have atFront : (resolver.columns node (resolver.artifacts.catalog.get? key)).2 <+:
      (resolver.resolveNode key node state).1.failures :=
    List.prefix_append _ _
  unfold NodeOutcome.reported
  split
  · exact atFront
  · exact atFront.trans (List.prefix_append _ _)

/-- Every column of a relation becomes one column of the data model if it decodes, and one failure if
it does not. The columns of the data model come in order of position, those of one position in key
order; the failures come in key order, and behind the failures that there were before. -/
theorem columns_complete_and_ordered :
    let columns := (resolver.columns node (some relation)).1
    let failures := (resolver.columns node (some relation)).2
    (∃ listed : List (String × CatalogColumn), listed.Perm relation.readableColumns ∧
      listed.Pairwise CatalogColumn.Precedes ∧
      List.Forall₂ (fun entry column => entry.2.Becomes resolver.context.readType column)
        listed columns) ∧
      failures = relation.unreadableColumns.map (columnFailure node) ∧
      columns.length + failures.length = relation.columns.size ∧
      ∀ (key : String) (state : σ) (resolved : ResolvedModels),
        resolver.artifacts.catalog.get? key = some relation →
          resolved.failures ++ failures <+:
            (addOutcome resolved (resolver.resolveNode key node state).1).failures := by
  intro columns failures
  obtain ⟨listed, permuted, ordered, sorted⟩ :=
    exists_listing_sortByPosition (fun entry => (resolver.becomes_column node entry.2).position)
      relation.keys_readableColumns_increasing
  have isSorted : columns = listed.map fun entry => resolver.column node entry.2 := by
    rw [← sorted, ← successes_columnOutcomes]
    rfl
  refine ⟨⟨listed, permuted, ordered, ?_⟩, ?_, ?_, ?_⟩
  · rw [isSorted, List.forall₂_map_right_iff]
    exact List.forall₂_same.mpr fun entry _ => resolver.becomes_column node entry.2
  · exact resolver.failuresAmong_columnOutcomes node relation
  · have counted := length_successes_add_length_failuresAmong
      (resolver.columnOutcomes node relation)
    rw [successes_columnOutcomes, List.length_map, ← permuted.length_eq] at counted
    rw [isSorted, List.length_map]
    refine counted.trans ?_
    rw [columnOutcomes, CatalogNode.decodedColumns, List.length_map, List.length_map]
    rfl
  · intro key state resolved found
    have reported := resolver.columnFailures_prefix_reported node key state
    rw [found] at reported
    rw [failures_addOutcome]
    exact (List.prefix_append_right_inj _).mpr reported

end ModelResolver

/-- Two columns of one position, one before them and one that does not decode. -/
def CatalogNode.tied : CatalogNode where
  metadata := default
  columns := .ofList
    [("ID", CatalogColumn.encode ⟨"ID", "integer", 1, none⟩), ("BAD", .null),
      ("ZONE", CatalogColumn.encode ⟨"ZONE", "text", 0, none⟩),
      ("AMOUNT", CatalogColumn.encode ⟨"AMOUNT", "numeric", 1, none⟩)]
  uniqueId := none

/-- The earlier position comes first and the tie is in key order; the bad column is reported behind
an earlier failure. -/
theorem ModelResolver.columns_complete_and_ordered_on_tied :
    let artifacts : MergedArtifacts := .ordersAmong [] [("model.shop.orders", .tied)]
    let resolver : ModelResolver Store := ⟨.inMemory "svc", artifacts, []⟩
    let earlier : Failure := .shape .dataModel "model.shop.customers" "earlier"
    artifacts.catalog.get? "model.shop.orders" = some .tied ∧
      ((resolver.columns .orders (some .tied)).1.map fun column => (column.position, column.name)) =
        [(0, "zone"), (1, "amount"), (1, "id")] ∧
      [earlier, columnFailure .orders ("BAD", .invalidType .null "struct CatalogColumn")] <+:
        (addOutcome ⟨.empty, .empty, [earlier]⟩
          (resolver.resolveNode "model.shop.orders" .orders (Store.empty 0)).1).failures := by
  intro artifacts resolver earlier
  have found : artifacts.catalog.get? "model.shop.orders" = some .tied :=
    SortedMap.get?_insert_same _ _ _
  obtain ⟨-, failures, -, behind⟩ := resolver.columns_complete_and_ordered .orders .tied
  have reported := behind "model.shop.orders" (Store.empty 0) ⟨.empty, .empty, [earlier]⟩ found
  refine ⟨found, by decide +kernel, ?_⟩
  rw [failures] at reported
  exact reported

end CatalogIngest
