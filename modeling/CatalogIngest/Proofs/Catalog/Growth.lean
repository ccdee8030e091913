import CatalogIngest.Catalog.Store
import CatalogIngest.Proofs.Catalog.Identity
import CatalogIngest.Proofs.SortedMap

/-!
# How the in-memory catalog grows

A sound catalog keeps each entity under its own kind and full name, with an identity of its own, no
edge twice, and results of existing test cases only. Every operation leads from a sound catalog to a
sound one, and only adds: entities stay as they are, edges and results are appended.
-/

namespace CatalogIngest
namespace Store

/-- What holds of a catalog at all times. -/
structure Sound (store : Store) : Prop where
  keyed : ∀ kind fullName entity, store.entity? kind fullName = some entity →
    entity.kind = kind ∧ entity.fullName = fullName
  numbered : ∀ kind fullName entity, store.entity? kind fullName = some entity →
    ∃ number < store.nextNumber, entity.id = .ofNumber number
  distinct : ∀ kind fullName entity otherKind otherName other,
    store.entity? kind fullName = some entity →
      store.entity? otherKind otherName = some other →
        entity.id = other.id → kind = otherKind ∧ fullName = otherName
  edgesOnce : store.lineage.Nodup
  resultsKnown : ∀ fullName ∈ store.results.keys, store.contains .testCase fullName = true

/-- What was in an older catalog is in a newer one, unchanged and in the same order. -/
structure Extends (older newer : Store) : Prop where
  entities : ∀ kind fullName entity,
    older.entity? kind fullName = some entity → newer.entity? kind fullName = some entity
  lineage : older.lineage <+: newer.lineage
  results : ∀ fullName, older.resultsOf fullName <+: newer.resultsOf fullName

/-- A newer catalog extends an older one and is sound if that one is. -/
structure Grows (older newer : Store) : Prop extends Extends older newer where
  sound : older.Sound → newer.Sound

theorem Extends.refl (store : Store) : store.Extends store where
  entities _ _ _ found := found
  lineage := List.prefix_refl _
  results _ := List.prefix_refl _

theorem Extends.trans
    {first second third : Store}
    (early : first.Extends second)
    (late : second.Extends third) :
    first.Extends third where
  entities kind fullName entity found :=
    late.entities kind fullName entity (early.entities kind fullName entity found)
  lineage := early.lineage.trans late.lineage
  results fullName := (early.results fullName).trans (late.results fullName)

theorem Extends.contains
    {older newer : Store}
    (extended : older.Extends newer)
    {kind : EntityKind}
    {fullName : String}
    (present : older.contains kind fullName = true) :
    newer.contains kind fullName = true := by
  obtain ⟨entity, found⟩ := Option.isSome_iff_exists.mp present
  exact Option.isSome_iff_exists.mpr
    ⟨entity, extended.entities kind fullName entity found⟩

theorem Grows.refl (store : Store) : store.Grows store :=
  ⟨.refl store, fun sound => sound⟩

theorem Grows.trans
    {first second third : Store}
    (early : first.Grows second)
    (late : second.Grows third) :
    first.Grows third :=
  ⟨early.toExtends.trans late.toExtends, fun sound => late.sound (early.sound sound)⟩

/-- A catalog grows over any number of steps that each let it grow. -/
theorem grows_foldl
    {α : Type}
    {step : Store → α → Store}
    (grows : ∀ (store : Store) (item : α), store.Grows (step store item))
    (items : List α)
    (store : Store) :
    store.Grows (items.foldl step store) := by
  induction items generalizing store with
  | nil => exact .refl store
  | cons item later inductionHypothesis =>
      exact (grows store item).trans (inductionHypothesis (step store item))

theorem mem_names_iff
    (store : Store)
    (kind : EntityKind)
    (fullName : String) :
    fullName ∈ store.names kind ↔ ∃ entity, store.entity? kind fullName = some entity :=
  SortedMap.mem_keys_iff _ _

theorem contains_iff_mem_names
    (store : Store)
    (kind : EntityKind)
    (fullName : String) :
    store.contains kind fullName = true ↔ fullName ∈ store.names kind := by
  rw [mem_names_iff, contains, Option.isSome_iff_exists]

/-! ## A new catalog -/

@[simp] theorem entity?_empty
    (firstNumber : Nat)
    (kind : EntityKind)
    (fullName : String) :
    (empty firstNumber).entity? kind fullName = none := by
  simp [entity?, empty]

theorem sound_empty (firstNumber : Nat) : (empty firstNumber).Sound where
  keyed _ _ _ found := by simp at found
  numbered _ _ _ found := by simp at found
  distinct _ _ _ _ _ _ found := by simp at found
  edgesOnce := List.nodup_nil
  resultsKnown _ member := by simp [empty, SortedMap.keys] at member

/-! ## Registering entities -/

/-- The entity that a catalog makes for a name that it does not hold. -/
def newEntity (store : Store) (kind : EntityKind) (fullName : String) : Entity :=
  ⟨.ofNumber store.nextNumber, kind, displayName kind fullName, fullName⟩

theorem addEntity_of_some
    {store : Store}
    {kind : EntityKind}
    {fullName : String}
    {entity : Entity}
    (found : store.entity? kind fullName = some entity) :
    store.addEntity kind fullName = (entity, store) := by
  simp [addEntity, found]

theorem addEntity_of_none
    {store : Store}
    {kind : EntityKind}
    {fullName : String}
    (absent : store.entity? kind fullName = none) :
    store.addEntity kind fullName =
      (store.newEntity kind fullName,
        { store with
          entities := store.entities.set kind
            ((store.entities.get kind).insert fullName (store.newEntity kind fullName))
          nextNumber := store.nextNumber + 1 }) := by
  simp [addEntity, absent, newEntity]

@[simp] theorem lineage_addEntity
    (store : Store)
    (kind : EntityKind)
    (fullName : String) :
    (store.addEntity kind fullName).2.lineage = store.lineage := by
  unfold addEntity
  split <;> rfl

@[simp] theorem results_addEntity
    (store : Store)
    (kind : EntityKind)
    (fullName : String) :
    (store.addEntity kind fullName).2.results = store.results := by
  unfold addEntity
  split <;> rfl

@[simp] theorem faults_addEntity
    (store : Store)
    (kind : EntityKind)
    (fullName : String) :
    (store.addEntity kind fullName).2.faults = store.faults := by
  unfold addEntity
  split <;> rfl

/-- After registering a name, it leads to the entity returned; all other names lead where they led
before. -/
theorem entity?_addEntity
    (store : Store)
    (kind otherKind : EntityKind)
    (fullName otherName : String) :
    (store.addEntity kind fullName).2.entity? otherKind otherName =
      if otherKind = kind ∧ otherName = fullName then some (store.addEntity kind fullName).1
      else store.entity? otherKind otherName := by
  cases found : store.entity? kind fullName with
  | some entity =>
      rw [addEntity_of_some found]
      split
      · next same =>
        obtain ⟨rfl, rfl⟩ := same
        exact found
      · rfl
  | none =>
      rw [addEntity_of_none found]
      by_cases sameKind : otherKind = kind
      · subst sameKind
        simp [entity?, SortedMap.get?_insert]
      · simp [entity?, PerKind.get_set_other _ sameKind, sameKind]

theorem entity?_addEntity_same
    (store : Store)
    (kind : EntityKind)
    (fullName : String) :
    (store.addEntity kind fullName).2.entity? kind fullName =
      some (store.addEntity kind fullName).1 := by
  simp [entity?_addEntity]

theorem extends_addEntity
    (store : Store)
    (kind : EntityKind)
    (fullName : String) :
    store.Extends (store.addEntity kind fullName).2 where
  entities otherKind otherName entity found := by
    rw [entity?_addEntity]
    split
    · next same =>
      obtain ⟨rfl, rfl⟩ := same
      rw [addEntity_of_some found]
    · exact found
  lineage := by simp
  results otherName := by simp [resultsOf]

theorem sound_addEntity
    {store : Store}
    (sound : store.Sound)
    (kind : EntityKind)
    (fullName : String) :
    (store.addEntity kind fullName).2.Sound := by
  cases found : store.entity? kind fullName with
  | some entity =>
      rw [addEntity_of_some found]
      exact sound
  | none =>
      have look := store.entity?_addEntity kind
      have grown := store.extends_addEntity kind fullName
      have made : (store.addEntity kind fullName).1 = store.newEntity kind fullName := by
        rw [addEntity_of_none found]
      have next : (store.addEntity kind fullName).2.nextNumber = store.nextNumber + 1 := by
        rw [addEntity_of_none found]
      -- The new identity is the only one with the number that was next.
      have fresh : ∀ otherKind otherName other, store.entity? otherKind otherName = some other →
          (store.newEntity kind fullName).id ≠ other.id := by
        intro otherKind otherName other known same
        obtain ⟨number, below, numbered⟩ := sound.numbered otherKind otherName other known
        rw [numbered] at same
        exact absurd (EntityId.ofNumber_injective same) (by omega)
      constructor
      · intro otherKind otherName other known
        rw [look] at known
        split at known
        · next same =>
          obtain ⟨rfl, rfl⟩ := same
          cases known
          rw [made]
          exact ⟨rfl, rfl⟩
        · exact sound.keyed otherKind otherName other known
      · intro otherKind otherName other known
        rw [look] at known
        rw [next]
        split at known
        · cases known
          rw [made]
          exact ⟨store.nextNumber, by omega, rfl⟩
        · obtain ⟨number, below, numbered⟩ := sound.numbered otherKind otherName other known
          exact ⟨number, by omega, numbered⟩
      · intro leftKind leftName left rightKind rightName right leftKnown rightKnown same
        rw [look] at leftKnown rightKnown
        split at leftKnown <;> split at rightKnown
        · next leftSame rightSame =>
          exact ⟨leftSame.1.trans rightSame.1.symm, leftSame.2.trans rightSame.2.symm⟩
        · cases leftKnown
          rw [made] at same
          exact absurd same (fresh _ _ _ rightKnown)
        · cases rightKnown
          rw [made] at same
          exact absurd same.symm (fresh _ _ _ leftKnown)
        · exact sound.distinct _ _ _ _ _ _ leftKnown rightKnown same
      · rw [lineage_addEntity]
        exact sound.edgesOnce
      · intro otherName member
        rw [results_addEntity] at member
        exact grown.contains (sound.resultsKnown otherName member)

theorem grows_addEntity
    (store : Store)
    (kind : EntityKind)
    (fullName : String) :
    store.Grows (store.addEntity kind fullName).2 :=
  ⟨store.extends_addEntity kind fullName, fun sound => sound_addEntity sound kind fullName⟩

/-! ## Requests -/

/-- A request for a suite leaves the catalog as it is or registers the name. -/
theorem createSuite_snd
    (store : Store)
    (request : SuiteRequest) :
    (store.createSuite request).2 = store ∨
      (store.createSuite request).2 = (store.addEntity .testSuite request.name).2 := by
  unfold createSuite
  split
  · exact .inl rfl
  · exact .inr rfl

theorem createDefinition_snd
    (store : Store)
    (request : DefinitionRequest) :
    (store.createDefinition request).2 = store ∨
      (store.createDefinition request).2 =
        (store.addEntity .testDefinition request.name).2 := by
  unfold createDefinition
  split
  · exact .inl rfl
  · exact .inr rfl

theorem createCase_snd
    (store : Store)
    (request : CaseRequest) :
    (store.createCase request).2 = store ∨
      (store.createCase request).2 =
        (store.addEntity .testCase (caseName request.link request.name)).2 := by
  unfold createCase
  split
  · exact .inr rfl
  · exact .inl rfl

theorem grows_createSuite
    (store : Store)
    (request : SuiteRequest) :
    store.Grows (store.createSuite request).2 := by
  rcases store.createSuite_snd request with same | same <;> rw [same]
  · exact .refl store
  · exact store.grows_addEntity .testSuite request.name

theorem grows_createDefinition
    (store : Store)
    (request : DefinitionRequest) :
    store.Grows (store.createDefinition request).2 := by
  rcases store.createDefinition_snd request with same | same <;> rw [same]
  · exact .refl store
  · exact store.grows_addEntity .testDefinition request.name

theorem grows_createCase
    (store : Store)
    (request : CaseRequest) :
    store.Grows (store.createCase request).2 := by
  rcases store.createCase_snd request with same | same <;> rw [same]
  · exact .refl store
  · exact store.grows_addEntity .testCase (caseName request.link request.name)

/-- A case that was created is found under its name, as the entity that the creation returned. -/
theorem entity?_of_createCase_ok
    {store : Store}
    {request : CaseRequest}
    {entity : Entity}
    (created : (store.createCase request).1 = .ok entity) :
    (store.createCase request).2.entity? .testCase (caseName request.link request.name) =
      some entity := by
  unfold createCase at created ⊢
  split at created
  · next present =>
    cases created
    rw [if_pos present]
    exact store.entity?_addEntity_same .testCase _
  · cases created

theorem grows_addLineage
    (store : Store)
    (request : LineageRequest) :
    store.Grows (store.addLineage request) := by
  unfold addLineage
  split
  · exact .refl store
  · next absent =>
    refine ⟨⟨fun _ _ _ found => found, List.prefix_append _ _, fun _ => List.prefix_refl _⟩, ?_⟩
    intro sound
    refine ⟨sound.keyed, sound.numbered, sound.distinct, ?_, sound.resultsKnown⟩
    exact List.nodup_append.mpr ⟨sound.edgesOnce, List.nodup_singleton _, by
      rintro edge member _ single rfl
      exact absent (List.mem_singleton.mp single ▸ member)⟩

theorem grows_addFault
    (store : Store)
    (name : String)
    (error : CatalogError) :
    store.Grows (store.addFault name error) :=
  ⟨⟨fun _ _ _ found => found, List.prefix_refl _, fun _ => List.prefix_refl _⟩, fun sound =>
    ⟨sound.keyed, sound.numbered, sound.distinct, sound.edgesOnce, sound.resultsKnown⟩⟩

/-! ## Results -/

/-- The catalog after one more result of a test case. -/
def addResult (store : Store) (fullName : String) (result : TestResult) : Store :=
  { store with results := store.results.insert fullName (store.resultsOf fullName ++ [result]) }

theorem submit_of_fault
    {store : Store}
    {fullName : String}
    {error : CatalogError}
    (fault : store.faults.get? fullName = some error)
    (result : TestResult) :
    store.submit fullName result = (.error error, store) := by
  simp [submit, fault]

theorem submit_of_contains
    {store : Store}
    {fullName : String}
    (unfaulted : store.faults.get? fullName = none)
    (present : store.contains .testCase fullName = true)
    (result : TestResult) :
    store.submit fullName result = (.ok (), store.addResult fullName result) := by
  simp [submit, unfaulted, present, addResult]

theorem submit_of_absent
    {store : Store}
    {fullName : String}
    (unfaulted : store.faults.get? fullName = none)
    (absent : store.contains .testCase fullName = false)
    (result : TestResult) :
    store.submit fullName result = (.error ⟨.notFound, fullName⟩, store) := by
  simp [submit, unfaulted, absent]

theorem resultsOf_addResult
    (store : Store)
    (fullName other : String)
    (result : TestResult) :
    (store.addResult fullName result).resultsOf other =
      if other = fullName then store.resultsOf other ++ [result] else store.resultsOf other := by
  unfold resultsOf addResult
  rw [SortedMap.get?_insert]
  split
  · next same =>
    subst same
    rfl
  · rfl

theorem grows_addResult
    {store : Store}
    {fullName : String}
    (present : store.contains .testCase fullName = true)
    (result : TestResult) :
    store.Grows (store.addResult fullName result) := by
  refine ⟨⟨fun _ _ _ found => found, List.prefix_refl _, ?_⟩, ?_⟩
  · intro other
    rw [resultsOf_addResult]
    split
    · exact List.prefix_append _ _
    · exact List.prefix_refl _
  · intro sound
    refine ⟨sound.keyed, sound.numbered, sound.distinct, sound.edgesOnce, ?_⟩
    intro other member
    rcases (SortedMap.mem_keys_insert _ _ _ _).mp member with rfl | old
    · exact present
    · exact sound.resultsKnown other old

/-- A submission is refused and changes nothing, or it adds a result to an existing case. -/
theorem submit_cases
    (store : Store)
    (fullName : String)
    (result : TestResult) :
    (∃ error, store.submit fullName result = (.error error, store)) ∨
      (store.contains .testCase fullName = true ∧
        store.submit fullName result = (.ok (), store.addResult fullName result)) := by
  cases fault : store.faults.get? fullName with
  | some error => exact .inl ⟨error, submit_of_fault fault result⟩
  | none =>
      cases present : store.contains .testCase fullName with
      | true => exact .inr ⟨rfl, submit_of_contains fault present result⟩
      | false => exact .inl ⟨⟨.notFound, fullName⟩, submit_of_absent fault present result⟩

theorem grows_submit
    (store : Store)
    (fullName : String)
    (result : TestResult) :
    store.Grows (store.submit fullName result).2 := by
  rcases store.submit_cases fullName result with ⟨error, refused⟩ | ⟨present, accepted⟩
  · rw [refused]
    exact .refl store
  · rw [accepted]
    exact grows_addResult present result

end Store
end CatalogIngest
