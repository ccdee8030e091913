import CatalogIngest.Proofs.Catalog.DisplayName
import CatalogIngest.Proofs.Catalog.Registration
import Mathlib.Data.Finset.Sort
import Mathlib.Data.String.Basic

/-!
# Snapshots opened and taken again

A catalog that is opened from a snapshot lists every name of the snapshot once, in increasing order.
So a snapshot taken of a catalog is already in the form in which it is taken again. Opened from its own
snapshot, a catalog has the same names under which it lists tables, users, teams, suites, definitions
and cases, and shows each of them as before.
-/

namespace CatalogIngest

/-! ## Names in order -/

namespace Snapshot

/-- The names of a list once each, in the order of their code points. -/
def inOrder (names : List String) : List String :=
  names.toFinset.sort

theorem mem_inOrder_iff
    (names : List String)
    (name : String) :
    name ∈ inOrder names ↔ name ∈ names := by
  rw [inOrder, Finset.mem_sort, List.mem_toFinset]

theorem inOrder_increasing (names : List String) : (inOrder names).Pairwise (· < ·) :=
  (Finset.sortedLT_sort names.toFinset).pairwise

/-- An increasing list is determined by its names. -/
theorem eq_inOrder
    {listed names : List String}
    (increasing : listed.Pairwise (· < ·))
    (same : ∀ name, name ∈ listed ↔ name ∈ names) :
    listed = inOrder names :=
  increasing.eq_of_mem_iff (inOrder_increasing names) fun {name} =>
    (same name).trans (mem_inOrder_iff names name).symm

theorem inOrder_of_increasing
    {names : List String}
    (increasing : names.Pairwise (· < ·)) :
    inOrder names = names :=
  (eq_inOrder increasing fun _ => Iff.rfl).symm

/-- The snapshot with the names of each kind once and in order. -/
def arranged (snapshot : Snapshot) : Snapshot where
  tables := inOrder snapshot.tables
  users := inOrder snapshot.users
  teams := inOrder snapshot.teams
  testSuites := inOrder snapshot.testSuites
  testDefinitions := inOrder snapshot.testDefinitions
  testCases := inOrder snapshot.testCases

theorem namesOf_arranged
    (snapshot : Snapshot)
    (kind : EntityKind) :
    snapshot.arranged.namesOf kind = inOrder (snapshot.namesOf kind) := by
  cases kind with
  | dataModel => exact (inOrder_of_increasing .nil).symm
  | _ => rfl

end Snapshot

namespace Store

/-! ## Opening a snapshot -/

theorem names_ofSnapshot
    (firstNumber : Nat)
    (snapshot : Snapshot)
    (kind : EntityKind) :
    (ofSnapshot firstNumber snapshot).names kind = Snapshot.inOrder (snapshot.namesOf kind) :=
  Snapshot.eq_inOrder (SortedMap.keys_increasing _) fun name => by
    rw [← contains_iff_mem_names, contains_ofSnapshot]

theorem snapshot_ofSnapshot
    (firstNumber : Nat)
    (snapshot : Snapshot) :
    (ofSnapshot firstNumber snapshot).snapshot = snapshot.arranged := by
  apply Snapshot.ext_namesOf
  intro kind
  by_cases listed : kind = .dataModel
  · rw [listed, Snapshot.namesOf_arranged]
    exact (Snapshot.inOrder_of_increasing .nil).symm
  · rw [namesOf_snapshot _ listed, names_ofSnapshot, Snapshot.namesOf_arranged]

/-- A catalog lists its names in order and once each. -/
theorem arranged_snapshot (store : Store) : store.snapshot.arranged = store.snapshot := by
  apply Snapshot.ext_namesOf
  intro kind
  rw [Snapshot.namesOf_arranged]
  apply Snapshot.inOrder_of_increasing
  cases kind with
  | dataModel => exact .nil
  | _ => exact SortedMap.keys_increasing _

theorem reachable_ofSnapshot
    (firstNumber : Nat)
    (snapshot : Snapshot) :
    (ofSnapshot firstNumber snapshot).Reachable :=
  ⟨.ofSnapshot snapshot, firstNumber, [], rfl⟩

theorem exists_entity_of_mem_names
    {store : Store}
    {kind : EntityKind}
    {fullName : String}
    (listed : fullName ∈ store.names kind) :
    ∃ entity, store.entity? kind fullName = some entity :=
  Option.isSome_iff_exists.mp ((contains_iff_mem_names store kind fullName).mpr listed)

/-! ## The round trip -/

/-- A snapshot that is opened is taken again with each of its lists in order and freed of repetitions,
and from then on it stays as it is. A catalog that is reached has the same names when it is opened
from its snapshot, and displays each of them as before. -/
theorem snapshot_round_trip :
    (∀ firstNumber snapshot, (ofSnapshot firstNumber snapshot).snapshot = snapshot.arranged) ∧
    (∀ firstNumber secondNumber snapshot,
      (ofSnapshot secondNumber (ofSnapshot firstNumber snapshot).snapshot).snapshot =
        (ofSnapshot firstNumber snapshot).snapshot) ∧
    ∀ store : Store, store.Reachable → ∀ firstNumber kind, kind ≠ .dataModel →
      (ofSnapshot firstNumber store.snapshot).names kind = store.names kind ∧
        ∀ fullName ∈ store.names kind, ∃ entity reopened,
          store.entity? kind fullName = some entity ∧
            (ofSnapshot firstNumber store.snapshot).entity? kind fullName = some reopened ∧
              reopened.name = entity.name := by
  refine ⟨snapshot_ofSnapshot, ?_, ?_⟩
  · intro firstNumber secondNumber snapshot
    rw [snapshot_ofSnapshot secondNumber, arranged_snapshot]
  · intro store reachable firstNumber kind listed
    have sameNames : (ofSnapshot firstNumber store.snapshot).names kind = store.names kind := by
      rw [← namesOf_snapshot _ listed, snapshot_ofSnapshot, arranged_snapshot,
        namesOf_snapshot _ listed]
    refine ⟨sameNames, fun fullName known => ?_⟩
    obtain ⟨entity, found⟩ := exists_entity_of_mem_names known
    obtain ⟨reopened, foundAgain⟩ := exists_entity_of_mem_names (sameNames.symm ▸ known)
    refine ⟨entity, reopened, found, foundAgain, ?_⟩
    have titled := (reachable_ofSnapshot firstNumber store.snapshot).titled
    rw [titled kind fullName reopened foundAgain, reachable.titled kind fullName entity found]

/-- A snapshot with names out of order, repeated and shared between kinds. -/
def unsorted : Snapshot where
  tables := ["svc.b", "svc.a", "svc.b"]
  users := ["svc.a", "grace", "ada"]
  teams := []
  testSuites := ["svc.a"]
  testDefinitions := []
  testCases := []

theorem snapshot_round_trip_on_unsorted :
    unsorted.arranged =
        { unsorted with tables := ["svc.a", "svc.b"], users := ["ada", "grace", "svc.a"] } ∧
      (ofSnapshot 0 unsorted).Reachable ∧
      ((ofSnapshot 7 (ofSnapshot 0 unsorted).snapshot).names .user = ["ada", "grace", "svc.a"] ∧
        ∃ entity reopened,
          (ofSnapshot 0 unsorted).entity? .user "svc.a" = some entity ∧
            (ofSnapshot 7 (ofSnapshot 0 unsorted).snapshot).entity? .user "svc.a" = some reopened ∧
              reopened.name = entity.name) := by
  have reachable := reachable_ofSnapshot 0 unsorted
  obtain ⟨names, displayed⟩ := snapshot_round_trip.2.2 _ reachable 7 .user (by decide)
  refine ⟨(snapshot_round_trip.1 0 unsorted).symm.trans (by decide), reachable, names, ?_⟩
  exact displayed "svc.a" (by decide)

end Store
end CatalogIngest
