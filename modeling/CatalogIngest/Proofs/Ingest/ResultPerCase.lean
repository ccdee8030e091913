import CatalogIngest.Proofs.Ingest.EdgeCounts
import CatalogIngest.Proofs.Ingest.ResultClasses

/-!
# Results of a record per case

The result of a record is submitted once for each dependency of its test, to the case on the table
of the dependency. Two dependencies on one table share that case, which then gets the result twice.
So a record adds at most one result to each case exactly if those dependencies of its test whose
cases the catalog takes results for have tables of their own; and if all records do so, and only
then, the count of submissions is that of pairs of a record and a case.
-/

namespace CatalogIngest

/-! ## Cases on the tables of dependencies -/

namespace MergedArtifacts

variable
  (artifacts : MergedArtifacts)
  (service : String)
  (test : ManifestNode)

/-- The full name of the case of a test on the table of an entity of the manifest. -/
def caseOn? (id : String) : Option String :=
  (artifacts.manifest.get? id).map fun node => test.caseNameOn node service

/-- The dependencies of a test whose cases a catalog takes results for. -/
def takenDependencies (store : Store) : List String :=
  test.dependsOn.filter fun id => (artifacts.caseOn? service test id).any store.takes

/-- The cases of one test all extend the names of their tables by the same text. -/
theorem caseOn?_eq
    (id : String) :
    artifacts.caseOn? service test id =
      (artifacts.tableOf? service id).map
        (· ++ ("." ++ Name.join (test.declaredColumn.toList ++ [test.name]))) := by
  unfold caseOn? tableOf? ManifestNode.caseNameOn
  rw [Option.map_map]
  exact Option.map_congr fun node _ => node.address.caseName_eq_append service _ _

/-- The cases of a test are different exactly if the tables are. -/
theorem nodup_cases_iff
    (ids : List String) :
    (ids.filterMap (artifacts.caseOn? service test)).Nodup ↔
      artifacts.HaveOwnTables service ids := by
  have extended : ids.filterMap (artifacts.caseOn? service test) =
      (ids.filterMap (artifacts.tableOf? service)).map
        (· ++ ("." ++ Name.join (test.declaredColumn.toList ++ [test.name]))) := by
    rw [List.map_filterMap]
    exact List.filterMap_congr fun id _ => artifacts.caseOn?_eq service test id
  rw [extended, List.nodup_map_iff fun _ _ same => (String.append_left_inj _).mp same,
    nodup_tables_iff]

theorem filter_takes_cases
    (store : Store) :
    (test.dependsOn.filterMap (artifacts.caseOn? service test)).filter store.takes =
      (artifacts.takenDependencies service test store).filterMap
        (artifacts.caseOn? service test) := by
  rw [takenDependencies, List.filter_filterMap, List.filterMap_filter]
  refine List.filterMap_congr fun id _ => ?_
  cases artifacts.caseOn? service test id with
  | none => rfl
  | some fullName => rw [Option.filter_some, Option.any_some]

end MergedArtifacts

/-! ## One record -/

namespace TestMapping

/-- The test that a record is of, if it is of a test and its completion time, if any, reads. -/
def testOf? (mapping : TestMapping Store) (value : Json.Value) : Option ManifestNode :=
  match RunResult.decode .direct value with
  | .error _ => none
  | .ok record =>
      match mapping.tests.get? record.uniqueId, record.completedMillis with
      | some test, .ok _ => some test
      | _, _ => none

variable
  {mapping : TestMapping Store}
  {service : String}

/-- The deliveries of a record are to the cases of its test on the tables of the dependencies. -/
theorem map_caseName_entryDeliveries
    (value : Json.Value) :
    (mapping.entryDeliveries service value).map Delivery.caseName =
      (mapping.testOf? value).toList.flatMap fun test =>
        test.dependsOn.filterMap (mapping.artifacts.caseOn? service test) := by
  unfold entryDeliveries testOf? recordDeliveries
  cases RunResult.decode .direct value with
  | error error => rfl
  | ok record =>
      dsimp only
      cases mapping.tests.get? record.uniqueId with
      | none => rfl
      | some test =>
          cases record.completedMillis with
          | error text => rfl
          | ok timestamp =>
              dsimp only
              rw [deliveriesTo, List.map_map, List.map_filterMap, Option.toList_some,
                List.flatMap_singleton]
              rfl

/-- No case is delivered to twice exactly if the dependencies have tables of their own. -/
theorem nodup_entryDeliveries_iff
    (value : Json.Value) :
    ((mapping.entryDeliveries service value).map Delivery.caseName).Nodup ↔
      ∀ test ∈ mapping.testOf? value,
        mapping.artifacts.HaveOwnTables service test.dependsOn := by
  rw [map_caseName_entryDeliveries]
  cases mapping.testOf? value with
  | none => simp
  | some test => simp [mapping.artifacts.nodup_cases_iff service test]

/-- No case takes a delivery twice exactly if the dependencies whose cases take one have tables of
their own. -/
theorem nodup_taken_iff
    (value : Json.Value)
    (store : Store) :
    ((store.taken (mapping.entryDeliveries service value)).map Delivery.caseName).Nodup ↔
      ∀ test ∈ mapping.testOf? value,
        mapping.artifacts.HaveOwnTables service
          (mapping.artifacts.takenDependencies service test store) := by
  rw [Store.map_caseName_taken, map_caseName_entryDeliveries]
  cases mapping.testOf? value with
  | none => simp
  | some test =>
      simp [mapping.artifacts.filter_takes_cases service test,
        mapping.artifacts.nodup_cases_iff service test]

end TestMapping

namespace Store

theorem length_resultsFor
    (fullName : String)
    (deliveries : List Delivery) :
    (resultsFor fullName deliveries).length =
      (deliveries.map Delivery.caseName).count fullName := by
  rw [resultsFor, List.length_map, List.count, List.countP_map, List.countP_eq_length_filter]
  rfl

/-- Deliveries add at most one result to each case exactly if no case is delivered to twice. -/
theorem gains_at_most_one_iff
    (store : Store)
    (deliveries : List Delivery) :
    (∀ fullName, ((store.addResults deliveries).resultsOf fullName).length ≤
        (store.resultsOf fullName).length + 1) ↔
      (deliveries.map Delivery.caseName).Nodup := by
  rw [List.nodup_iff_count_le_one]
  refine forall_congr' fun fullName => ?_
  rw [resultsOf_addResults, List.length_append, length_resultsFor, Nat.add_le_add_iff_left]

end Store

/-! ## All records -/

namespace TestMapping

variable
  (mapping : TestMapping Store)
  (service : String)
  (store : Store)

/-- The deliveries of some records that the catalog takes, as positions of records and names of
cases. -/
def takenPairs (records : List Json.Value) : List (Nat × String) :=
  records.zipIdx.flatMap fun entry =>
    ((store.taken (mapping.entryDeliveries service entry.1)).map Delivery.caseName).map
      (Prod.mk entry.2)

theorem mem_takenPairs_iff
    (records : List Json.Value)
    (position : Nat)
    (fullName : String) :
    (position, fullName) ∈ mapping.takenPairs service store records ↔
      ∃ value, records[position]? = some value ∧
        fullName ∈ (store.taken (mapping.entryDeliveries service value)).map Delivery.caseName := by
  constructor
  · intro member
    obtain ⟨⟨value, place⟩, listed, paired⟩ := List.mem_flatMap.mp member
    obtain ⟨_, delivered, ⟨⟩⟩ := List.mem_map.mp paired
    exact ⟨value, List.mem_zipIdx_iff_getElem?.mp listed, delivered⟩
  · rintro ⟨value, listed, delivered⟩
    exact List.mem_flatMap.mpr ⟨(value, position), List.mem_zipIdx_iff_getElem?.mpr listed,
      List.mem_map_of_mem delivered⟩

theorem length_takenPairs
    (records : List Json.Value) :
    (mapping.takenPairs service store records).length =
      (store.taken (mapping.deliveriesOf service records)).length := by
  calc (mapping.takenPairs service store records).length
      = ((records.zipIdx.map Prod.fst).map fun value =>
          (store.taken (mapping.entryDeliveries service value)).length).sum := by
        rw [takenPairs, List.length_flatMap, List.map_map]
        simp only [List.length_map]
        rfl
    _ = (records.flatMap fun value =>
          store.taken (mapping.entryDeliveries service value)).length := by
        rw [List.zipIdx_map_fst, List.length_flatMap]
    _ = (store.taken (mapping.deliveriesOf service records)).length := by
        unfold Store.taken
        rw [← List.filter_flatMap]
        rfl

theorem nodup_takenPairs_iff
    (records : List Json.Value) :
    (mapping.takenPairs service store records).Nodup ↔
      ∀ value ∈ records, ∀ test ∈ mapping.testOf? value,
        mapping.artifacts.HaveOwnTables service
          (mapping.artifacts.takenDependencies service test store) := by
  have marked : ∀ entry : Json.Value × Nat,
      ∀ pair ∈ ((store.taken (mapping.entryDeliveries service entry.1)).map
        Delivery.caseName).map (Prod.mk entry.2), pair.1 = entry.2 := by
    rintro entry _ member
    obtain ⟨_, -, rfl⟩ := List.mem_map.mp member
    rfl
  have positions : (records.zipIdx.map Prod.snd).Nodup := by
    rw [List.zipIdx_map_snd]
    exact List.nodup_range'
  rw [takenPairs, nodup_flatMap_iff_of_marks marked positions]
  simp only [List.nodup_map_iff (Prod.mk_right_injective _), nodup_taken_iff]
  constructor
  · intro own value member
    obtain ⟨position, listed⟩ := List.mem_iff_getElem?.mp member
    exact own (value, position) (List.mem_zipIdx_iff_getElem?.mpr listed)
  · intro own entry member
    exact own entry.1 (List.mem_of_getElem? (List.mem_zipIdx_iff_getElem?.mp member))

end TestMapping

/-- Attaching results with the in-memory catalog. For one record, in whatever catalog: one call is
made for each dependency of its test that the manifest has, to the case on its table, and the calls
are accepted for whose cases the catalog takes results. No case is called for twice exactly if the
dependencies have tables of their own, and no case gains more than one result exactly if those
dependencies do for whose cases the catalog takes results. For all records: as many submissions are
counted as there are pairs of a record and a case that gains its result exactly if the latter holds
of every record. -/
theorem TestMapping.one_result_per_case_iff
    {mapping : TestMapping Store}
    {service : String}
    (inMemory : mapping.context = .inMemory service)
    (store : Store) :
    (∀ position value catalog,
        let attached := mapping.entryOutcomes position value catalog
        let logged := mapping.logged.entryOutcomes position value ⟨catalog, []⟩
        let called := logged.2.events.filterMap MappingEvent.submittedTo?
        logged.1 = attached.1 ∧ logged.2.state = attached.2 ∧
          called = ((mapping.testOf? value).toList.flatMap fun test =>
            test.dependsOn.filterMap (mapping.artifacts.caseOn? service test)) ∧
          successes attached.1 = called.filter catalog.takes ∧
          (called.Nodup ↔ ∀ test ∈ mapping.testOf? value,
            mapping.artifacts.HaveOwnTables service test.dependsOn) ∧
          ((∀ fullName, (attached.2.resultsOf fullName).length ≤
              (catalog.resultsOf fullName).length + 1) ↔
            ∀ test ∈ mapping.testOf? value,
              mapping.artifacts.HaveOwnTables service
                (mapping.artifacts.takenDependencies service test catalog))) ∧
      ∀ pairs : List (Nat × String), pairs.Nodup →
        (∀ position fullName, (position, fullName) ∈ pairs ↔
          ∃ value, mapping.records[position]? = some value ∧
            let before := (mapping.outcomesFrom 0 (mapping.records.take position) store).2
            fullName ∈ successes (mapping.entryOutcomes position value before).1) →
        ((mapping.attachResults store).1.submitted = pairs.length ↔
          ∀ value ∈ mapping.records, ∀ test ∈ mapping.testOf? value,
            mapping.artifacts.HaveOwnTables service
              (mapping.artifacts.takenDependencies service test store)) := by
  have delivers := delivers_entryOutcomes mapping inMemory
  have deliversAll := delivers_outcomesFrom mapping inMemory 0
  refine ⟨?_, ?_⟩
  · intro position value catalog attached logged called
    obtain ⟨calls, same, named⟩ := (delivers position value).calls catalog []
    have log : logged = (attached.1, ⟨attached.2, calls⟩) := same
    have calledCases : called = (mapping.entryDeliveries service value).map Delivery.caseName := by
      rw [← named]
      exact congrArg (fun result => result.2.events.filterMap MappingEvent.submittedTo?) log
    refine ⟨congrArg Prod.fst log, congrArg (fun result => result.2.state) log, ?_, ?_, ?_, ?_⟩
    · rw [calledCases]
      exact map_caseName_entryDeliveries value
    · rw [calledCases, ← Store.map_caseName_taken]
      exact (delivers position value).accepted catalog
    · rw [calledCases]
      exact nodup_entryDeliveries_iff value
    · rw [show attached.2 = _ from (delivers position value).final catalog,
        Store.gains_at_most_one_iff]
      exact nodup_taken_iff value catalog
  · intro pairs once members
    have submitted : (mapping.attachResults store).1.submitted =
        (mapping.takenPairs service store mapping.records).length := by
      rw [length_takenPairs, ← List.length_map Delivery.caseName,
        ← (deliversAll mapping.records).accepted store, attachResults_eq_bind]
      rfl
    have samePairs : ∀ pair,
        pair ∈ pairs ↔ pair ∈ mapping.takenPairs service store mapping.records := by
      rintro ⟨position, fullName⟩
      rw [members, mem_takenPairs_iff]
      refine exists_congr fun value => and_congr_right fun _ => ?_
      dsimp only
      rw [(delivers position value).accepted, (deliversAll _).final, Store.taken_addResults]
    rw [submitted, eq_comm, length_eq_iff_of_mem_iff once samePairs, nodup_takenPairs_iff]

/-- A test that depends on two sources of customers, of which the second lies in some schema, and
some records of it. -/
def TestMapping.ofCustomers (schema : String) (records : Nat) : TestMapping Store where
  context := .inMemory "svc"
  artifacts := .ordersFrom schema
  tests :=
    .ofList
      [("test.shop.known",
        { (default : ManifestNode) with
          name := "known", resourceType := "test"
          dependsOn := ["source.crm.customers", "source.shop.customers"] })]
  runResults :=
    some ⟨List.replicate records
      (.object [("unique_id", .string "test.shop.known"), ("status", .string "success")])⟩

/-- A catalog with the cases of that test on customers in two schemas. -/
def Store.withCustomerCases : Store :=
  (Origin.built [(.testCase, "svc.default.crm.customers.known"),
    (.testCase, "svc.default.raw.customers.known")] []).store 0

/-- On tables in different schemas, two records lead to one submission for each of four pairs. -/
theorem TestMapping.one_result_per_case_iff_on_two_schemas :
    (ofCustomers "raw" 2).context = .inMemory "svc" ∧
      ((ofCustomers "raw" 2).attachResults .withCustomerCases).1.submitted =
        [(0, "svc.default.crm.customers.known"), (0, "svc.default.raw.customers.known"),
          (1, "svc.default.crm.customers.known"),
          (1, "svc.default.raw.customers.known")].length := by
  have inMemory : (ofCustomers "raw" 2).context = .inMemory "svc" := rfl
  obtain ⟨-, counted⟩ := one_result_per_case_iff inMemory .withCustomerCases
  have accepted : ∀ position < 2,
      ((ofCustomers "raw" 2).records[position]?.map fun value =>
        let earlier := (ofCustomers "raw" 2).records.take position
        let before := ((ofCustomers "raw" 2).outcomesFrom 0 earlier .withCustomerCases).2
        successes ((ofCustomers "raw" 2).entryOutcomes position value before).1) =
        some ["svc.default.crm.customers.known", "svc.default.raw.customers.known"] := by
    decide +kernel
  refine ⟨inMemory, (counted _ (by decide) fun position fullName => ?_).mpr (by decide +kernel)⟩
  by_cases within : position < 2
  · obtain ⟨value, listed, cases⟩ := Option.map_eq_some_iff.mp (accepted position within)
    rw [listed]
    simp only [Option.some.injEq, exists_eq_left']
    rw [cases]
    obtain rfl | rfl : position = 0 ∨ position = 1 := by omega
    · simp
    · simp
  · rw [List.getElem?_eq_none (not_lt.mp within)]
    have later : position ≠ 0 ∧ position ≠ 1 := by omega
    simp [later]

/-- On one table, one record leads to two submissions to one case. -/
theorem TestMapping.shared_case_gains_twice :
    let attached := (ofCustomers "crm" 1).attachResults .withCustomerCases
    attached.1.submitted = 2 ∧
      Store.withCustomerCases.resultsOf "svc.default.crm.customers.known" = [] ∧
        (attached.2.resultsOf "svc.default.crm.customers.known").length = 2 := by
  decide +kernel

end CatalogIngest
