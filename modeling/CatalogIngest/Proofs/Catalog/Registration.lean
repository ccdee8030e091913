import CatalogIngest.Catalog.Snapshot
import CatalogIngest.Proofs.Catalog.Growth
import Mathlib.Data.List.Sort

/-!
# Registering many entities

Opening a snapshot and creating suites, definitions and cases all come to registering names one
after another. Afterwards a catalog holds those names and the ones it held before. Two catalogs that
hold the same names list them alike, so they have the same snapshot.
-/

namespace CatalogIngest
namespace Store

/-! ## One after another -/

/-- Register entities of given kinds and full names one after another. -/
def addEach (store : Store) (entries : List (EntityKind × String)) : Store :=
  entries.foldl (fun current entry => (current.addEntity entry.1 entry.2).2) store

@[simp] theorem addEach_nil (store : Store) : store.addEach [] = store := rfl

@[simp] theorem addEach_cons
    (store : Store)
    (entry : EntityKind × String)
    (later : List (EntityKind × String)) :
    store.addEach (entry :: later) = ((store.addEntity entry.1 entry.2).2).addEach later := rfl

theorem addEach_append
    (store : Store)
    (earlier later : List (EntityKind × String)) :
    store.addEach (earlier ++ later) = (store.addEach earlier).addEach later :=
  List.foldl_append

@[simp] theorem faults_addEach
    (store : Store)
    (entries : List (EntityKind × String)) :
    (store.addEach entries).faults = store.faults := by
  induction entries generalizing store with
  | nil => rfl
  | cons entry later inductionHypothesis =>
      rw [addEach_cons, inductionHypothesis, faults_addEntity]

theorem grows_addEach
    (store : Store)
    (entries : List (EntityKind × String)) :
    store.Grows (store.addEach entries) :=
  grows_foldl
    (fun store (entry : EntityKind × String) => store.grows_addEntity entry.1 entry.2) entries store

theorem contains_addEntity
    (store : Store)
    (kind otherKind : EntityKind)
    (fullName otherName : String) :
    (store.addEntity kind fullName).2.contains otherKind otherName = true ↔
      (otherKind = kind ∧ otherName = fullName) ∨ store.contains otherKind otherName = true := by
  unfold contains
  rw [entity?_addEntity]
  split
  · next same => simp [same]
  · next different => simp [different]

/-- A catalog holds what was registered and what it held before. -/
theorem contains_addEach
    (store : Store)
    (entries : List (EntityKind × String))
    (kind : EntityKind)
    (fullName : String) :
    (store.addEach entries).contains kind fullName = true ↔
      (kind, fullName) ∈ entries ∨ store.contains kind fullName = true := by
  induction entries generalizing store with
  | nil => simp
  | cons entry later inductionHypothesis =>
      rw [addEach_cons, inductionHypothesis, contains_addEntity, List.mem_cons, Prod.ext_iff]
      exact or_left_comm.trans or_assoc.symm

/-- Names that are not registered keep the entity they had, if any. -/
theorem entity?_addEach_of_not_mem
    (store : Store)
    {entries : List (EntityKind × String)}
    {kind : EntityKind}
    {fullName : String}
    (absent : (kind, fullName) ∉ entries) :
    (store.addEach entries).entity? kind fullName = store.entity? kind fullName := by
  induction entries generalizing store with
  | nil => rfl
  | cons entry later inductionHypothesis =>
      rw [List.mem_cons, not_or] at absent
      rw [addEach_cons, inductionHypothesis _ absent.2, entity?_addEntity, if_neg]
      rintro ⟨rfl, rfl⟩
      exact absent.1 rfl

theorem addAll_eq_addEach
    (store : Store)
    (kind : EntityKind)
    (fullNames : List String) :
    store.addAll kind fullNames = store.addEach (fullNames.map fun fullName => (kind, fullName)) := by
  unfold addAll addEach
  rw [List.foldl_map]

end Store

/-! ## Snapshots -/

namespace Snapshot

/-- The names of a kind; no data models are listed. -/
def namesOf (snapshot : Snapshot) : EntityKind → List String
  | .table => snapshot.tables
  | .dataModel => []
  | .user => snapshot.users
  | .team => snapshot.teams
  | .testSuite => snapshot.testSuites
  | .testDefinition => snapshot.testDefinitions
  | .testCase => snapshot.testCases

/-- The kinds and full names of all entities listed. -/
def entries (snapshot : Snapshot) : List (EntityKind × String) :=
  snapshot.groups.flatMap fun group => group.2.map fun fullName => (group.1, fullName)

theorem mem_entries_iff
    (snapshot : Snapshot)
    (kind : EntityKind)
    (fullName : String) :
    (kind, fullName) ∈ snapshot.entries ↔ fullName ∈ snapshot.namesOf kind := by
  unfold entries groups namesOf
  cases kind <;> simp

@[ext] theorem ext_namesOf
    {left right : Snapshot}
    (same : ∀ kind, left.namesOf kind = right.namesOf kind) :
    left = right := by
  obtain ⟨tables, users, teams, testSuites, testDefinitions, testCases⟩ := left
  have sameTables := same .table
  have sameUsers := same .user
  have sameTeams := same .team
  have sameSuites := same .testSuite
  have sameDefinitions := same .testDefinition
  have sameCases := same .testCase
  simp only [namesOf] at sameTables sameUsers sameTeams sameSuites sameDefinitions sameCases
  simp only [sameTables, sameUsers, sameTeams, sameSuites, sameDefinitions, sameCases]

end Snapshot

namespace Store

theorem foldl_addAll_eq_addEach
    (groups : List (EntityKind × List String))
    (store : Store) :
    groups.foldl (fun store group => store.addAll group.1 group.2) store =
      store.addEach
        (groups.flatMap fun group => group.2.map fun fullName => (group.1, fullName)) := by
  induction groups generalizing store with
  | nil => rfl
  | cons group later inductionHypothesis =>
      rw [List.foldl_cons, inductionHypothesis, List.flatMap_cons, addEach_append,
        addAll_eq_addEach]

theorem ofSnapshot_eq_addEach
    (firstNumber : Nat)
    (snapshot : Snapshot) :
    ofSnapshot firstNumber snapshot = (empty firstNumber).addEach snapshot.entries :=
  foldl_addAll_eq_addEach snapshot.groups (empty firstNumber)

@[simp] theorem faults_ofSnapshot
    (firstNumber : Nat)
    (snapshot : Snapshot) :
    (ofSnapshot firstNumber snapshot).faults = .empty := by
  rw [ofSnapshot_eq_addEach, faults_addEach]
  rfl

theorem sound_ofSnapshot
    (firstNumber : Nat)
    (snapshot : Snapshot) :
    (ofSnapshot firstNumber snapshot).Sound := by
  rw [ofSnapshot_eq_addEach]
  exact (grows_addEach _ _).sound (sound_empty firstNumber)

/-- A catalog that is opened holds the names of the snapshot. -/
theorem contains_ofSnapshot
    (firstNumber : Nat)
    (snapshot : Snapshot)
    (kind : EntityKind)
    (fullName : String) :
    (ofSnapshot firstNumber snapshot).contains kind fullName = true ↔
      fullName ∈ snapshot.namesOf kind := by
  rw [ofSnapshot_eq_addEach, contains_addEach, Snapshot.mem_entries_iff]
  simp [contains]

theorem namesOf_snapshot
    (store : Store)
    {kind : EntityKind}
    (listed : kind ≠ .dataModel) :
    store.snapshot.namesOf kind = store.names kind := by
  cases kind with
  | dataModel => exact absurd rfl listed
  | _ => rfl

/-- The names of a kind are determined by which of them a catalog holds. -/
theorem names_eq_of_contains_iff
    {left right : Store}
    {kind : EntityKind}
    (same : ∀ fullName, left.contains kind fullName = true ↔
      right.contains kind fullName = true) :
    left.names kind = right.names kind := by
  refine (SortedMap.keys_increasing _).eq_of_mem_iff (SortedMap.keys_increasing _) ?_
  intro fullName
  exact (contains_iff_mem_names _ _ _).symm.trans
    ((same fullName).trans (contains_iff_mem_names _ _ _))

/-- Catalogs that hold the same listed names have the same snapshot. -/
theorem snapshot_eq_of_contains_iff
    {left right : Store}
    (same : ∀ kind fullName, kind ≠ .dataModel →
      (left.contains kind fullName = true ↔ right.contains kind fullName = true)) :
    left.snapshot = right.snapshot := by
  apply Snapshot.ext_namesOf
  intro kind
  by_cases listed : kind = .dataModel
  · rw [listed]
    rfl
  · rw [namesOf_snapshot left listed, namesOf_snapshot right listed]
    exact names_eq_of_contains_iff fun fullName => same kind fullName listed

/-! ## References -/

/-- The reference to the entity of a kind and full name. -/
def referenceTo? (store : Store) (kind : EntityKind) (fullName : String) :
    Option EntityReference :=
  (store.entity? kind fullName).map Entity.reference

/-- The entity that a look-up finds, if it finds one. -/
def found? (store : Store) (kind : EntityKind) (fullName : String) : Option Entity :=
  match store.lookup kind fullName with
  | .ok found => found
  | .error _ => none

theorem found?_of_unfaulted
    {store : Store}
    {fullName : String}
    (unfaulted : store.faults.get? fullName = none)
    (kind : EntityKind) :
    store.found? kind fullName = store.entity? kind fullName := by
  simp [found?, lookup, unfaulted]

theorem found?_of_fault
    {store : Store}
    {fullName : String}
    {error : CatalogError}
    (fault : store.faults.get? fullName = some error)
    (kind : EntityKind) :
    store.found? kind fullName = none := by
  simp [found?, lookup, fault]

theorem entity?_of_found?
    {store : Store}
    {kind : EntityKind}
    {fullName : String}
    {entity : Entity}
    (found : store.found? kind fullName = some entity) :
    store.entity? kind fullName = some entity := by
  cases fault : store.faults.get? fullName with
  | some error =>
      rw [found?_of_fault fault] at found
      nomatch found
  | none =>
      rw [found?_of_unfaulted fault] at found
      exact found

theorem referenceTo?_of_found?
    {store : Store}
    {kind : EntityKind}
    {fullName : String}
    {entity : Entity}
    (found : store.found? kind fullName = some entity) :
    store.referenceTo? kind fullName = some entity.reference := by
  rw [referenceTo?, entity?_of_found? found]
  rfl

section Unfaulted

variable {store : Store} (noFaults : store.faults = .empty)

include noFaults

theorem unfaulted
    (fullName : String) :
    store.faults.get? fullName = none := by
  rw [noFaults]
  exact SortedMap.get?_empty fullName

/-- Without faults a look-up finds exactly what the catalog holds. -/
theorem isSome_found?
    (kind : EntityKind)
    (fullName : String) :
    (store.found? kind fullName).isSome = store.contains kind fullName := by
  rw [found?_of_unfaulted (unfaulted noFaults fullName)]
  rfl

end Unfaulted

theorem Extends.referenceTo?
    {older newer : Store}
    (extended : older.Extends newer)
    {kind : EntityKind}
    {fullName : String}
    {reference : EntityReference}
    (found : older.referenceTo? kind fullName = some reference) :
    newer.referenceTo? kind fullName = some reference := by
  obtain ⟨entity, known, same⟩ := Option.map_eq_some_iff.mp found
  exact Option.map_eq_some_iff.mpr
    ⟨entity, extended.entities kind fullName entity known, same⟩

/-- Different names of a kind lead to different references. -/
theorem Sound.fullName_eq_of_referenceTo?
    {store : Store}
    (sound : store.Sound)
    {kind : EntityKind}
    {first second : String}
    {reference : EntityReference}
    (firstFound : store.referenceTo? kind first = some reference)
    (secondFound : store.referenceTo? kind second = some reference) :
    first = second := by
  obtain ⟨left, leftKnown, leftSame⟩ := Option.map_eq_some_iff.mp firstFound
  obtain ⟨right, rightKnown, rightSame⟩ := Option.map_eq_some_iff.mp secondFound
  have sameId : left.id = right.id :=
    congrArg EntityReference.id (leftSame.trans rightSame.symm)
  exact (sound.distinct _ _ _ _ _ _ leftKnown rightKnown sameId).2

section Found

variable
  {store : Store}
  (sound : store.Sound)
  {kind : EntityKind}
  {fullName : String}
  {entity : Entity}
  (found : store.found? kind fullName = some entity)

include sound found

/-- The kind in the reference to an entity is the one that it was looked up with. -/
theorem Sound.reference_of_found? :
    entity.reference = .ofKind entity.id kind := by
  rw [Entity.reference, (sound.keyed _ _ _ (entity?_of_found? found)).1]

/-- Only the name that an entity was looked up with leads to its reference. -/
theorem Sound.referenceTo?_eq_iff
    (name : String) :
    store.referenceTo? kind name = some entity.reference ↔ fullName = name := by
  have own := referenceTo?_of_found? found
  constructor
  · exact sound.fullName_eq_of_referenceTo? own
  · rintro rfl
    exact own

end Found

end Store
end CatalogIngest
