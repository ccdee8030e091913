import CatalogIngest.Proofs.Ingest.CallLog
import CatalogIngest.Proofs.Ingest.RecordedResult

/-!
# Submitting the results of records

Each record of a test is for the case of that test on every table it depends on. Submitting
the records to the in-memory catalog makes one call for each of them, in their order, adds exactly
those results for whose case there is no fault and which is there, and counts them. What is
delivered for a record is what is owed for it by what the record tells.
-/

namespace CatalogIngest

/-- A result and the full name of the test case that it is for. -/
structure Delivery where
  caseName : String
  result : TestResult

/-! ## Adding results -/

namespace Store

/-- The catalog after some deliveries. -/
def addResults (store : Store) (deliveries : List Delivery) : Store :=
  deliveries.foldl (fun current delivery => current.addResult delivery.caseName delivery.result)
    store

/-- Whether there is a test case for a delivery. -/
def accepts (store : Store) (delivery : Delivery) : Bool :=
  store.contains .testCase delivery.caseName

/-- The results among some deliveries that are for one case, in order. -/
def resultsFor (fullName : String) (deliveries : List Delivery) : List TestResult :=
  (deliveries.filter fun delivery => delivery.caseName = fullName).map (·.result)

@[simp] theorem addResults_nil (store : Store) : store.addResults [] = store := rfl

theorem addResults_append
    (store : Store)
    (earlier later : List Delivery) :
    store.addResults (earlier ++ later) = (store.addResults earlier).addResults later :=
  List.foldl_append

@[simp] theorem entities_addResults
    (store : Store)
    (deliveries : List Delivery) :
    (store.addResults deliveries).entities = store.entities := by
  induction deliveries generalizing store with
  | nil => rfl
  | cons delivery later inductionHypothesis => exact inductionHypothesis _

@[simp] theorem faults_addResults
    (store : Store)
    (deliveries : List Delivery) :
    (store.addResults deliveries).faults = store.faults := by
  induction deliveries generalizing store with
  | nil => rfl
  | cons delivery later inductionHypothesis => exact inductionHypothesis _

theorem entity?_addResults
    (store : Store)
    (deliveries : List Delivery)
    (kind : EntityKind)
    (fullName : String) :
    (store.addResults deliveries).entity? kind fullName = store.entity? kind fullName := by
  unfold entity?
  rw [entities_addResults]

theorem accepts_addResults
    (store : Store)
    (deliveries : List Delivery) :
    (store.addResults deliveries).accepts = store.accepts := by
  funext delivery
  unfold accepts contains
  rw [entity?_addResults]

/-- A case keeps its results and gains those of the deliveries that are for it. -/
theorem resultsOf_addResults
    (store : Store)
    (deliveries : List Delivery)
    (fullName : String) :
    (store.addResults deliveries).resultsOf fullName =
      store.resultsOf fullName ++ resultsFor fullName deliveries := by
  induction deliveries generalizing store with
  | nil => exact (List.append_nil _).symm
  | cons delivery later inductionHypothesis =>
      have gained := inductionHypothesis (store.addResult delivery.caseName delivery.result)
      rw [resultsOf_addResult] at gained
      refine gained.trans ?_
      by_cases same : delivery.caseName = fullName
      · rw [if_pos same.symm]
        simp [resultsFor, same]
      · rw [if_neg (Ne.symm same)]
        simp [resultsFor, same]

/-- No result for an existing case is lost when only deliveries with a case are kept. -/
theorem resultsFor_filter_accepts
    {store : Store}
    {fullName : String}
    (present : store.contains .testCase fullName = true)
    (deliveries : List Delivery) :
    resultsFor fullName (deliveries.filter store.accepts) = resultsFor fullName deliveries := by
  unfold resultsFor
  rw [List.filter_filter]
  congr 1
  refine List.filter_congr fun delivery _ => ?_
  by_cases same : delivery.caseName = fullName
  · simp [accepts, same, present]
  · simp [same]

/-- Whether the catalog takes a result for a case: no fault is set for its name, and the case is
there. -/
def takes (store : Store) (fullName : String) : Bool :=
  (store.faults.get? fullName).isNone && store.contains .testCase fullName

/-- The deliveries that the catalog takes. -/
def taken (store : Store) (deliveries : List Delivery) : List Delivery :=
  deliveries.filter fun delivery => store.takes delivery.caseName

theorem taken_append
    (store : Store)
    (earlier later : List Delivery) :
    store.taken (earlier ++ later) = store.taken earlier ++ store.taken later :=
  List.filter_append _ _

/-- The cases of the deliveries that are taken are those that the catalog takes results for. -/
theorem map_caseName_taken
    (store : Store)
    (deliveries : List Delivery) :
    (store.taken deliveries).map Delivery.caseName =
      (deliveries.map Delivery.caseName).filter store.takes := by
  rw [List.filter_map]
  rfl

theorem takes_addResults
    (store : Store)
    (deliveries : List Delivery) :
    (store.addResults deliveries).takes = store.takes := by
  funext fullName
  unfold takes contains
  rw [faults_addResults, entity?_addResults]

theorem taken_addResults
    (store : Store)
    (deliveries others : List Delivery) :
    (store.addResults deliveries).taken others = store.taken others := by
  unfold taken
  rw [takes_addResults]

/-- Without faults, deliveries are taken for which there is a case. -/
theorem taken_of_unfaulted
    {store : Store}
    (unfaulted : store.faults = .empty)
    (deliveries : List Delivery) :
    store.taken deliveries = deliveries.filter store.accepts := by
  refine List.filter_congr fun delivery _ => ?_
  rw [takes, unfaulted, SortedMap.get?_empty]
  rfl

/-- A submission succeeds exactly if the catalog takes the result. -/
theorem submit_of_takes
    (store : Store)
    (fullName : String)
    (result : TestResult) :
    if store.takes fullName then
      store.submit fullName result = (.ok (), store.addResult fullName result)
    else ∃ error, store.submit fullName result = (.error error, store) := by
  unfold takes
  cases fault : store.faults.get? fullName with
  | some error => exact ⟨error, submit_of_fault fault result⟩
  | none =>
      cases present : store.contains .testCase fullName with
      | true => exact submit_of_contains fault present result
      | false => exact ⟨⟨.notFound, fullName⟩, submit_of_absent fault present result⟩

end Store

/-! ## Submitting -/

/-- A computation submits some deliveries in their order, with one call for each, as its logging
counterpart shows: the catalog gains exactly those that it takes, and the successes are the names of
their cases. -/
structure Delivers (plain : StateM Store (List (Except Failure String)))
    (logged : StateM (Logged Store) (List (Except Failure String)))
    (deliveries : List Delivery) : Prop where
  final : ∀ store, (plain store).2 = store.addResults (store.taken deliveries)
  accepted : ∀ store,
    successes (plain store).1 = (store.taken deliveries).map Delivery.caseName
  calls : Traced plain logged fun calls _ =>
    calls.filterMap MappingEvent.submittedTo? = deliveries.map Delivery.caseName

/-- On a catalog without faults, a computation makes exactly those of some deliveries for which
there is a case, and counts them. -/
def Posts (submit : StateM Store (List (Except Failure String)))
    (deliveries : List Delivery) : Prop :=
  ∀ store : Store, store.faults = .empty →
    (submit store).2 = store.addResults (deliveries.filter store.accepts) ∧
      (successes (submit store).1).length = (deliveries.filter store.accepts).length

theorem Delivers.posts
    {plain : StateM Store (List (Except Failure String))}
    {logged : StateM (Logged Store) (List (Except Failure String))}
    {deliveries : List Delivery}
    (delivers : Delivers plain logged deliveries) :
    Posts plain deliveries := by
  intro store unfaulted
  rw [← Store.taken_of_unfaulted unfaulted, delivers.accepted, List.length_map]
  exact ⟨delivers.final store, rfl⟩

/-- Outcomes without a success that are given without a call deliver nothing. -/
theorem delivers_silently
    {outcomes : List (Except Failure String)}
    (unsuccessful : successes outcomes = []) :
    Delivers (pure outcomes) (pure outcomes) [] where
  final _ := rfl
  accepted _ := unsuccessful
  calls := (traced_pure outcomes).imp fun _ _ ⟨uncalled, _⟩ => uncalled ▸ rfl

/-- One computation after another makes the deliveries of both. -/
theorem Delivers.append
    {first second : StateM Store (List (Except Failure String))}
    {loggedFirst loggedSecond : StateM (Logged Store) (List (Except Failure String))}
    {earlier later : List Delivery}
    (early : Delivers first loggedFirst earlier)
    (late : Delivers second loggedSecond later) :
    Delivers
      (first >>= fun outcomes => second >>= fun others => pure (outcomes ++ others))
      (loggedFirst >>= fun outcomes => loggedSecond >>= fun others => pure (outcomes ++ others))
      (earlier ++ later) where
  final store := by
    change (second (first store).2).2 = _
    rw [late.final, early.final, Store.taken_addResults, Store.taken_append,
      Store.addResults_append]
  accepted store := by
    change successes ((first store).1 ++ (second (first store).2).1) = _
    rw [successes_append, early.accepted, late.accepted, early.final, Store.taken_addResults,
      Store.taken_append, List.map_append]
  calls := by
    refine (Traced.bind early.calls fun outcomes => Traced.bind late.calls fun others =>
      traced_pure (outcomes ++ others)).imp ?_
    rintro _ _ ⟨_, _, _, rfl, calledEarly, _, _, _, rfl, calledLate, rfl, -⟩
    rw [List.append_nil, List.filterMap_append, calledEarly, calledLate, List.map_append]

theorem delivers_outcomesOf
    {ι : Type}
    {attempt : ι → Attempt Store String}
    {logged : ι → Attempt (Logged Store) String}
    {delivery : ι → List Delivery}
    (delivers : ∀ item,
      Delivers (outcomesOf [attempt item]) (outcomesOf [logged item]) (delivery item))
    (items : List ι) :
    Delivers (outcomesOf (items.map attempt)) (outcomesOf (items.map logged))
      (items.flatMap delivery) := by
  induction items with
  | nil => exact delivers_silently rfl
  | cons item later inductionHypothesis => exact (delivers item).append inductionHypothesis

namespace TestMapping

/-- The deliveries of a result of a test: one for each of its dependencies that the manifest has. -/
def deliveriesTo (mapping : TestMapping Store) (service : String) (test : ManifestNode)
    (result : TestResult) : List Delivery :=
  (test.dependsOn.filterMap mapping.artifacts.manifest.get?).map fun node =>
    ⟨test.caseNameOn node service, result⟩

/-- The deliveries of a record: none unless it is of a test node and its completion time, if any, is
a timestamp. -/
def recordDeliveries (mapping : TestMapping Store) (service : String) (record : RunResult) :
    List Delivery :=
  match mapping.tests.get? record.uniqueId, record.completedMillis with
  | some test, .ok timestamp =>
      mapping.deliveriesTo service test (recordedResult record timestamp)
  | _, _ => []

/-- The deliveries of what is listed as a record: none if it does not decode. -/
def entryDeliveries (mapping : TestMapping Store) (service : String) (value : Json.Value) :
    List Delivery :=
  match RunResult.decode .direct value with
  | .error _ => []
  | .ok record => mapping.recordDeliveries service record

/-- The deliveries of some records in their order; a record that does not decode has none. -/
def deliveriesOf (mapping : TestMapping Store) (service : String) (records : List Json.Value) :
    List Delivery :=
  records.flatMap fun value =>
    match RunResult.decode .direct value with
    | .error _ => []
    | .ok record => mapping.recordDeliveries service record

/-- The deliveries of the results of the last execution, if they were loaded. -/
def deliveries (mapping : TestMapping Store) (service : String) : List Delivery :=
  match mapping.runResults with
  | none => []
  | some runResults => mapping.deliveriesOf service runResults.results

/-- What is owed for a listed record: nothing if it does not decode, is of no test node or last
completed at what is no timestamp; otherwise the result that it tells, to the case of its test on
each of the dependencies that the manifest has, in their order. -/
inductive Owes (mapping : TestMapping Store) (service : String) (value : Json.Value) :
    List Delivery → Prop
  | malformed {error : Json.DecodeError}
      (undecoded : RunResult.decode .direct value = .error error) :
      Owes mapping service value []
  | untested {record : RunResult}
      (decoded : RunResult.decode .direct value = .ok record)
      (noTest : mapping.tests.get? record.uniqueId = none) :
      Owes mapping service value []
  | mistimed {record : RunResult} {test : ManifestNode}
      (decoded : RunResult.decode .direct value = .ok record)
      (known : mapping.tests.get? record.uniqueId = some test)
      (mistimed : record.Mistimed) :
      Owes mapping service value []
  | told {record : RunResult} {test : ManifestNode} {result : TestResult}
      (decoded : RunResult.decode .direct value = .ok record)
      (known : mapping.tests.get? record.uniqueId = some test)
      (tells : record.Tells result) :
      Owes mapping service value (mapping.deliveriesTo service test result)

/-- What is owed for a record is what it delivers. -/
theorem owes_iff
    (mapping : TestMapping Store)
    (service : String)
    (value : Json.Value)
    (deliveries : List Delivery) :
    mapping.Owes service value deliveries ↔ mapping.entryDeliveries service value = deliveries := by
  constructor
  · intro owes
    unfold entryDeliveries
    cases owes with
    | malformed undecoded => rw [undecoded]
    | untested decoded noTest => simp [decoded, recordDeliveries, noTest]
    | @mistimed record test decoded known mistimed =>
        obtain ⟨text, failed⟩ := record.mistimed_iff.mp mistimed
        simp [decoded, recordDeliveries, known, failed]
    | told decoded known tells =>
        obtain ⟨timestamp, timed, rfl⟩ := tells_iff.mp tells
        simp [decoded, recordDeliveries, known, timed]
  · rintro rfl
    unfold entryDeliveries
    cases decoded : RunResult.decode .direct value with
    | error error => exact .malformed decoded
    | ok record =>
        dsimp only
        unfold recordDeliveries
        cases known : mapping.tests.get? record.uniqueId with
        | none => exact .untested decoded known
        | some test =>
            cases timed : record.completedMillis with
            | error text => exact .mistimed decoded known (record.mistimed_iff.mpr ⟨text, timed⟩)
            | ok timestamp => exact .told decoded known (tells_iff.mpr ⟨timestamp, timed, rfl⟩)

theorem forall₂_owes_iff
    (mapping : TestMapping Store)
    (service : String)
    (values : List Json.Value)
    (owed : List (List Delivery)) :
    List.Forall₂ (mapping.Owes service) values owed ↔
      values.map (mapping.entryDeliveries service) = owed := by
  have same : mapping.Owes service =
      fun value deliveries => mapping.entryDeliveries service value = deliveries :=
    funext₂ fun value deliveries => propext (mapping.owes_iff service value deliveries)
  rw [same, ← List.forall₂_map_left_iff, List.forall₂_eq_eq_eq]

theorem flatten_map_entryDeliveries
    (mapping : TestMapping Store)
    (service : String) :
    (mapping.records.map (mapping.entryDeliveries service)).flatten =
      mapping.deliveries service := by
  unfold records deliveries
  cases mapping.runResults <;> rfl

section InMemory

variable (mapping : TestMapping Store) {service : String}

/-- What comes of a submission, with the in-memory catalog. -/
theorem run_submitTo
    (inMemory : mapping.context = .inMemory service)
    (subject : String)
    (test : ManifestNode)
    (result : TestResult)
    (id : String)
    (store : Store) :
    (mapping.submitTo subject test result id).run store =
      match mapping.artifacts.dependency id .testResult subject with
      | .error failure => (.error failure, store)
      | .ok node =>
          match store.submit (test.caseNameOn node service) result with
          | (.error error, store) =>
              (.error (.external .testResult (test.caseNameOn node service) error.message), store)
          | (.ok (), store) => (.ok (test.caseNameOn node service), store) := by
  unfold submitTo
  rw [inMemory, Attempt.run_bind, Attempt.run_mk]
  rcases mapping.artifacts.dependency id .testResult subject with failure | node
  · rfl
  · dsimp only
    rw [Attempt.run_bind, Context.service_inMemory, Context.run_requireName_testCase]
    dsimp only
    rw [Attempt.run_mk, Context.submit_inMemory]
    unfold ManifestNode.caseNameOn
    rcases store.submit (node.address.caseName service test.declaredColumn test.name) result with
      ⟨_ | _, after⟩ <;> rfl

/-- With the in-memory catalog, the name of a case is built by one call. -/
theorem tries_requireName_testCase
    (service : String)
    (address : TableAddress)
    (column : Option String)
    (testCase : String)
    (stage : Stage)
    (subject : String) :
    Tries
      ((Context.inMemory service).requireName (address.testCaseRequest service column testCase)
        stage subject)
      ((Context.inMemory service).logged.requireName
        (address.testCaseRequest service column testCase) stage subject)
      fun effort => effort =
        ⟨[.built (address.testCaseRequest service column testCase)
          (.ok (some (address.caseName service column testCase)))],
          .ok (address.caseName service column testCase)⟩ :=
  fun _ _ => ⟨_, rfl, rfl⟩

/-- With the in-memory catalog, a result is submitted by one call if the manifest has the dependency,
and that call is for the case on its table. -/
theorem tries_submitTo_inMemory
    (inMemory : mapping.context = .inMemory service)
    (subject : String)
    (test : ManifestNode)
    (result : TestResult)
    (id : String) :
    Tries (mapping.submitTo subject test result id) (mapping.logged.submitTo subject test result id)
      fun effort => effort.calls.filterMap MappingEvent.submittedTo? =
        ((mapping.artifacts.manifest.get? id).map fun node =>
          test.caseNameOn node service).toList := by
  rw [submitTo_eq_bind, submitTo_eq_bind, TestMapping.logged, inMemory]
  dsimp only
  obtain ⟨node, found, known⟩ | ⟨absent, failure, missed⟩ :=
    mapping.artifacts.dependency_cases id .testResult subject
  · rw [known, found]
    refine tries_after_ok (((tries_requireName_testCase service node.address _ _ _ _).bind
      (tries_submitUnder (.inMemory service) result)).imp ?_)
    rintro _ (⟨⟨⟩⟩ | ⟨⟨⟩, ⟨error, ⟨⟩⟩ | ⟨⟨⟩⟩⟩)
    · rfl
    · rfl
  · rw [missed, absent]
    exact tries_after_error rfl

/-- A submission delivers its result to the case on a table of the manifest. -/
theorem delivers_submitTo
    (inMemory : mapping.context = .inMemory service)
    (subject : String)
    (test : ManifestNode)
    (result : TestResult)
    (id : String) :
    Delivers (outcomesOf [mapping.submitTo subject test result id])
      (outcomesOf [mapping.logged.submitTo subject test result id])
      ((mapping.artifacts.manifest.get? id).map fun node =>
        ⟨test.caseNameOn node service, result⟩).toList := by
  let deliveries : List Delivery :=
    ((mapping.artifacts.manifest.get? id).map fun node =>
      ⟨test.caseNameOn node service, result⟩).toList
  have outcome : ∀ store,
      (outcomesOf [mapping.submitTo subject test result id] store).2 =
          store.addResults (store.taken deliveries) ∧
        successes (outcomesOf [mapping.submitTo subject test result id] store).1 =
          (store.taken deliveries).map Delivery.caseName := by
    intro store
    simp only [deliveries, outcomesOf, run_submitTo mapping inMemory]
    obtain ⟨node, found, known⟩ | ⟨absent, failure, missed⟩ :=
      mapping.artifacts.dependency_cases id .testResult subject
    · simp only [found, known]
      have submitted := store.submit_of_takes (test.caseNameOn node service) result
      cases takes : store.takes (test.caseNameOn node service) with
      | true =>
          rw [if_pos takes] at submitted
          rw [submitted]
          simp [Store.taken, takes, successes, Store.addResults]
      | false =>
          rw [if_neg (Bool.not_eq_true _ ▸ takes)] at submitted
          obtain ⟨error, refused⟩ := submitted
          rw [refused]
          simp [Store.taken, takes, successes]
    · simp only [absent, missed]
      exact ⟨rfl, rfl⟩
  refine ⟨fun store => (outcome store).1, fun store => (outcome store).2, ?_⟩
  refine (Traced.bind (tries_submitTo_inMemory mapping inMemory subject test result id)
    fun answer => traced_pure [answer]).imp ?_
  rintro _ _ ⟨_, _, _, rfl, called, rfl, -⟩
  rw [List.append_nil]
  cases found : mapping.artifacts.manifest.get? id <;> rw [found] at called <;> exact called

theorem delivers_recordOutcomes
    (inMemory : mapping.context = .inMemory service)
    (record : RunResult) :
    Delivers (mapping.recordOutcomes record) (mapping.logged.recordOutcomes record)
      (mapping.recordDeliveries service record) := by
  unfold recordOutcomes recordDeliveries
  have sameTests : mapping.logged.tests = mapping.tests := rfl
  have sameForeign : mapping.logged.isForeign = mapping.isForeign := rfl
  rw [sameTests, sameForeign]
  cases mapping.tests.get? record.uniqueId with
  | none =>
      cases mapping.isForeign record.uniqueId with
      | true => exact delivers_silently rfl
      | false => exact delivers_silently rfl
  | some test =>
      cases record.completedMillis with
      | error text => exact delivers_silently rfl
      | ok timestamp =>
          have delivered := delivers_outcomesOf
            (delivers_submitTo mapping inMemory record.uniqueId test (resultOf record timestamp))
            test.dependsOn
          dsimp only
          rw [← resultOf_eq, deliveriesTo, List.map_filterMap, List.filterMap_eq_flatMap_toList]
          exact delivered

theorem delivers_entryOutcomes
    (inMemory : mapping.context = .inMemory service)
    (position : Nat)
    (value : Json.Value) :
    Delivers (mapping.entryOutcomes position value) (mapping.logged.entryOutcomes position value)
      (mapping.entryDeliveries service value) := by
  unfold entryOutcomes entryDeliveries
  cases RunResult.decode .direct value with
  | error error => exact delivers_silently rfl
  | ok record => exact delivers_recordOutcomes mapping inMemory record

theorem delivers_outcomesFrom
    (inMemory : mapping.context = .inMemory service)
    (position : Nat)
    (records : List Json.Value) :
    Delivers (mapping.outcomesFrom position records) (mapping.logged.outcomesFrom position records)
      (mapping.deliveriesOf service records) := by
  induction records generalizing position with
  | nil => exact delivers_silently rfl
  | cons value values inductionHypothesis =>
      exact (delivers_entryOutcomes mapping inMemory position value).append
        (inductionHypothesis (position + 1))

/-- Attaching results on a catalog without faults adds the deliveries for which there is a case, and
counts them. -/
theorem attachResults_eq
    (inMemory : mapping.context = .inMemory service)
    {store : Store}
    (unfaulted : store.faults = .empty) :
    (mapping.attachResults store).2 =
        store.addResults ((mapping.deliveries service).filter store.accepts) ∧
      (mapping.attachResults store).1.submitted =
        ((mapping.deliveries service).filter store.accepts).length := by
  unfold attachResults deliveries
  cases mapping.runResults with
  | none => exact ⟨rfl, rfl⟩
  | some runResults =>
      have delivered := delivers_outcomesFrom mapping inMemory 0 runResults.results
      exact delivered.posts store unfaulted

end InMemory
end TestMapping

end CatalogIngest
