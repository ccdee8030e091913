import CatalogIngest.Artifact.Merge
import CatalogIngest.Proofs.SortedMap

/-!
# What becomes of each key in a merge

An artifact has one raw value for each of its keys: that of the source, or that of the node if there
is no source. Merging decodes these values one by one, so every key leads to an entity or to a
failure, and what it leads to depends on the value under this key only.
-/

namespace CatalogIngest
namespace MergedArtifacts

/-- The raw value of a key: that of the sources, or that of the nodes if no source has the key. -/
def rawValue? (nodes sources : SortedMap Json.Value) (key : String) : Option Json.Value :=
  (sources.get? key).or (nodes.get? key)

/-- The failure for an entity of an artifact that does not decode. -/
def malformation (artifact key : String) (error : Json.DecodeError) : Failure :=
  .shape .merge key ("malformed " ++ artifact ++ " entity: " ++ error.message)

/-- Every key of an artifact has become an entity, decoded from its raw value, or one failure. -/
structure Partition {α : Type} (artifact : String) (decode : Json.Decoder α)
    (nodes sources : SortedMap Json.Value) (entities : SortedMap α) (failures : List Failure) :
    Prop where
  decoded : ∀ key value entity, rawValue? nodes sources key = some value →
    decode .direct value = .ok entity →
      entities.get? key = some entity ∧ ∀ failure ∈ failures, failure.subject ≠ key
  malformed : ∀ key value error, rawValue? nodes sources key = some value →
    decode .direct value = .error error →
      entities.get? key = none ∧
        (failures.filter fun failure => failure.subject = key) = [malformation artifact key error]
  absent : ∀ key, rawValue? nodes sources key = none →
    entities.get? key = none ∧ ∀ failure ∈ failures, failure.subject ≠ key
  inKeyOrder : (failures.map (·.subject)).Pairwise (· < ·)
  counted : entities.size + failures.length = (nodes.keys.toFinset ∪ sources.keys.toFinset).card

section Artifact

variable
  {α : Type}
  (artifact : String)
  (decode : Json.Decoder α)
  (raw nodes sources : SortedMap Json.Value)

/-! ## One artifact -/

/-- The failure that is reported for the raw value of a key, if it does not decode. -/
def failure? (key : String) (value : Json.Value) : Option Failure :=
  match decode .direct value with
  | .ok _ => none
  | .error error => some (malformation artifact key error)

theorem subject_of_failure?
    {key : String}
    {value : Json.Value}
    {failure : Failure}
    (reported : failure? artifact decode key value = some failure) :
    failure.subject = key := by
  unfold failure? at reported
  split at reported
  · nomatch reported
  · cases reported
    rfl

theorem malformed_eq_filterMap :
    malformed artifact decode raw =
      raw.entries.filterMap fun entry => failure? artifact decode entry.1 entry.2 :=
  rfl

theorem get?_decoded
    (key : String) :
    (decoded decode raw).get? key =
      (raw.get? key).bind fun value => (decode .direct value).toOption :=
  raw.get?_filterMap _ key

/-- The failures with a subject are those for the raw value of this key. -/
theorem filter_malformed
    (key : String) :
    ((malformed artifact decode raw).filter fun failure => failure.subject = key) =
      ((raw.get? key).bind (failure? artifact decode key)).toList := by
  have ofKey : ∀ entry : String × Json.Value,
      ((failure? artifact decode entry.1 entry.2).filter fun failure => failure.subject = key) =
        if decide (entry.1 = key) = true then failure? artifact decode entry.1 entry.2
        else none := by
    intro entry
    cases reported : failure? artifact decode entry.1 entry.2 with
    | none => simp
    | some failure => simp [Option.filter, subject_of_failure? artifact decode reported]
  rw [malformed_eq_filterMap, List.filter_filterMap]
  simp only [ofKey]
  rw [← List.filterMap_filter, raw.filter_entries_of_key key]
  cases raw.get? key with
  | none => rfl
  | some value =>
      simp only [Option.map_some, Option.toList_some, List.filterMap_cons, List.filterMap_nil,
        Option.bind_some]
      cases failure? artifact decode key value <;> rfl

theorem subjects_malformed_increasing :
    ((malformed artifact decode raw).map (·.subject)).Pairwise (· < ·) := by
  rw [malformed_eq_filterMap, List.pairwise_map]
  apply raw.increasing.filterMap
  intro first second below left leftReported right rightReported
  rw [subject_of_failure? artifact decode leftReported,
    subject_of_failure? artifact decode rightReported]
  exact below

/-- Every raw value decodes or is reported. -/
theorem size_decoded_add_length_malformed :
    (decoded decode raw).size + (malformed artifact decode raw).length = raw.size := by
  let reported (entry : String × Json.Value) : Bool :=
    (failure? artifact decode entry.1 entry.2).isSome
  have kept : (decoded decode raw).size = raw.entries.countP fun entry => ¬ reported entry := by
    rw [SortedMap.size, decoded, SortedMap.filterMap, List.length_filterMap_eq_countP]
    apply List.countP_congr
    intro entry _
    unfold reported failure?
    cases decode .direct entry.2 <;> simp [Except.toOption]
  rw [kept, malformed_eq_filterMap, List.length_filterMap_eq_countP, Nat.add_comm]
  exact (List.length_eq_countP_add_countP reported).symm

/-- Decoding the overlay of an artifact's sources on its nodes partitions its keys. -/
theorem partition_overlay :
    Partition artifact decode nodes sources (decoded decode (nodes.overlay sources))
      (malformed artifact decode (nodes.overlay sources)) := by
  have unreported : ∀ key, ((nodes.overlay sources).get? key).bind (failure? artifact decode key) =
      none → ∀ failure ∈ malformed artifact decode (nodes.overlay sources),
        failure.subject ≠ key := by
    intro key none failure member
    have filtered := filter_malformed artifact decode (nodes.overlay sources) key
    rw [none, Option.toList_none] at filtered
    simpa using List.filter_eq_nil_iff.mp filtered failure member
  constructor
  case decoded =>
    intro key value entity found decodes
    have overlaid := (nodes.get?_overlay sources key).trans found
    refine ⟨?_, unreported key ?_⟩
    · simp [get?_decoded, overlaid, decodes, Except.toOption]
    · simp [overlaid, failure?, decodes]
  case malformed =>
    intro key value error found fails
    have overlaid := (nodes.get?_overlay sources key).trans found
    refine ⟨?_, ?_⟩
    · simp [get?_decoded, overlaid, fails, Except.toOption]
    · simp [filter_malformed, overlaid, failure?, fails]
  case absent =>
    intro key missing
    have overlaid := (nodes.get?_overlay sources key).trans missing
    refine ⟨?_, unreported key ?_⟩
    · simp [get?_decoded, overlaid]
    · simp [overlaid]
  case inKeyOrder => exact subjects_malformed_increasing artifact decode _
  case counted =>
    rw [size_decoded_add_length_malformed, SortedMap.size_overlay]

end Artifact

/-- A merge makes an entity or one failure of every key of the manifest, and likewise of every key of
the catalog artifact; a source stands in for a node of the same key, also where only the node would
decode. The failures of the manifest come before those of the catalog artifact, each in key order,
and what becomes of a key is the same in every merge of artifacts with the same raw value under it. -/
theorem keys_partitioned
    (manifest : Manifest)
    (catalog : CatalogArtifact) :
    let merged := of manifest catalog
    (∃ fromManifest fromCatalog, merged.failures = fromManifest ++ fromCatalog ∧
      Partition "manifest" ManifestNode.decode manifest.nodes manifest.sources merged.manifest
        fromManifest ∧
      Partition "catalog" CatalogNode.decode catalog.nodes catalog.sources merged.catalog
        fromCatalog) ∧
      ∀ (otherManifest : Manifest) (otherCatalog : CatalogArtifact) (key : String),
        rawValue? otherManifest.nodes otherManifest.sources key =
            rawValue? manifest.nodes manifest.sources key →
          rawValue? otherCatalog.nodes otherCatalog.sources key =
              rawValue? catalog.nodes catalog.sources key →
            let other := of otherManifest otherCatalog
            other.manifest.get? key = merged.manifest.get? key ∧
              other.catalog.get? key = merged.catalog.get? key ∧
              (other.failures.filter fun failure => failure.subject = key) =
                merged.failures.filter fun failure => failure.subject = key := by
  intro merged
  refine ⟨⟨_, _, rfl, partition_overlay .., partition_overlay ..⟩, ?_⟩
  intro otherManifest otherCatalog key sameInManifest sameInCatalog other
  have declared : (otherManifest.nodes.overlay otherManifest.sources).get? key =
      (manifest.nodes.overlay manifest.sources).get? key := by
    rw [SortedMap.get?_overlay, SortedMap.get?_overlay]
    exact sameInManifest
  have found : (otherCatalog.nodes.overlay otherCatalog.sources).get? key =
      (catalog.nodes.overlay catalog.sources).get? key := by
    rw [SortedMap.get?_overlay, SortedMap.get?_overlay]
    exact sameInCatalog
  simp only [other, merged, of, get?_decoded, List.filter_append, filter_malformed, declared, found,
    and_self]

end MergedArtifacts

/-- A manifest with a node of orders that decodes, and below the same key a source that does not. -/
def Manifest.ordersOverridden (furtherNodes : List (String × Json.Value)) : Manifest where
  metadata := default
  nodes := .ofList
    (("shop.orders", .object [("name", .string "orders"), ("resource_type", .string "model")]) ::
      furtherNodes)
  sources := .ofList [("shop.orders", .null)]

theorem Manifest.rawValue?_ordersOverridden
    (furtherNodes : List (String × Json.Value)) :
    MergedArtifacts.rawValue? (ordersOverridden furtherNodes).nodes
      (ordersOverridden furtherNodes).sources "shop.orders" = some .null := by
  have source : (ordersOverridden furtherNodes).sources.get? "shop.orders" = some .null :=
    SortedMap.get?_insert_same .empty _ _
  rw [MergedArtifacts.rawValue?, source, Option.some_or]

/-- Orders are reported once, for the source, and likewise beside another node. -/
theorem MergedArtifacts.keys_partitioned_on_override :
    let alone := Manifest.ordersOverridden []
    let beside := Manifest.ordersOverridden [("shop.payments", .null)]
    let failure := malformation "manifest" "shop.orders"
      (.invalidType .null "struct ManifestNode")
    rawValue? alone.nodes alone.sources "shop.orders" = some .null ∧
      rawValue? beside.nodes beside.sources "shop.orders" = some .null ∧
      ((of alone .empty).failures.filter fun other => other.subject = "shop.orders") = [failure] ∧
      ((of beside .empty).failures.filter fun other => other.subject = "shop.orders") =
        [failure] := by
  intro alone beside failure
  have inAlone := Manifest.rawValue?_ordersOverridden []
  have inBeside := Manifest.rawValue?_ordersOverridden [("shop.payments", .null)]
  obtain ⟨⟨fromManifest, fromCatalog, failures, ofManifest, ofCatalog⟩, alike⟩ :=
    keys_partitioned alone .empty
  have reported := (ofManifest.malformed "shop.orders" .null _ inAlone rfl).2
  have unreported := (ofCatalog.absent "shop.orders" rfl).2
  have once : ((of alone .empty).failures.filter fun other => other.subject = "shop.orders") =
      [failure] := by
    rw [failures, List.filter_append, reported,
      List.filter_eq_nil_iff.mpr fun other member => by simpa using unreported other member]
    rfl
  have same := (alike beside .empty "shop.orders" (inBeside.trans inAlone.symm) rfl).2.2
  exact ⟨inAlone, inBeside, once, same.trans once⟩

end CatalogIngest
