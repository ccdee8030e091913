import CatalogIngest.Proofs.Ingest.CallLog
import CatalogIngest.Proofs.Ingest.RecordedResult
import Mathlib.Algebra.GroupWithZero.Nat

/-!
# What each record of a run contributes

Attaching results goes through the records of a run in order. A record contributes one failure,
nothing, or an outcome for each table that its test depends on, depending on the class it is in. The
outcomes of one test are independent: each comes from calls of its own.
-/

namespace CatalogIngest

/-- What holds of everything that is related to something holds of each item of a related list. -/
theorem forall_mem_of_forall₂
    {α β : Type}
    {relates : α → β → Prop}
    {holds : β → Prop}
    (related : ∀ left right, relates left right → holds right)
    {lefts : List α}
    {rights : List β}
    (each : List.Forall₂ relates lefts rights) :
    ∀ right ∈ rights, holds right := by
  induction each with
  | nil => exact List.forall_mem_nil _
  | cons here _ inductionHypothesis =>
      exact List.forall_mem_cons.mpr ⟨related _ _ here, inductionHypothesis⟩

/-- Lists that are related to items have the lengths that the items tell. -/
theorem map_length_of_forall₂
    {α β : Type}
    {relates : α → List β → Prop}
    {count : α → Nat}
    (counted : ∀ item list, relates item list → list.length = count item)
    {items : List α}
    {lists : List (List β)}
    (each : List.Forall₂ relates items lists) :
    lists.map List.length = items.map count := by
  induction each with
  | nil => rfl
  | cons here _ inductionHypothesis =>
      rw [List.map_cons, List.map_cons, inductionHypothesis, counted _ _ here]

namespace TestMapping

variable {σ : Type}

/-! ## One dependency -/

/-- The name of the case of a test on one of its dependencies is asked for. -/
abbrev NamesCase (mapping : TestMapping σ) (subject : String) (test : ManifestNode) (id : String) :
    Effort String → Prop :=
  Effort.Names mapping.artifacts .testResult subject
    (fun node => node.address.testCaseRequest mapping.context.service test.declaredColumn test.name)
    id

/-- A result is submitted to the case of a test on one of its dependencies: the case has no name and
no call to submit is made, or the one call that is made is refused or accepted. -/
inductive Submission (mapping : TestMapping σ) (subject : String) (test : ManifestNode)
    (result : TestResult) (id : String) : Effort String → Prop
  | unnamed {calls : List MappingEvent} {failure : Failure}
      (nameless : mapping.NamesCase subject test id ⟨calls, .error failure⟩) :
      Submission mapping subject test result id ⟨calls, .error failure⟩
  | refused {calls : List MappingEvent} {name : String} (error : CatalogError)
      (named : mapping.NamesCase subject test id ⟨calls, .ok name⟩) :
      Submission mapping subject test result id
        ⟨calls ++ [.submitted name result (.error error)],
          .error (.external .testResult name error.message)⟩
  | accepted {calls : List MappingEvent} {name : String}
      (named : mapping.NamesCase subject test id ⟨calls, .ok name⟩) :
      Submission mapping subject test result id
        ⟨calls ++ [.submitted name result (.ok ())], .ok name⟩

theorem tries_submitTo
    (mapping : TestMapping σ)
    (subject : String)
    (test : ManifestNode)
    (result : TestResult)
    (id : String) :
    Tries (mapping.submitTo subject test result id) (mapping.logged.submitTo subject test result id)
      (mapping.Submission subject test result id) := by
  rw [submitTo_eq_bind, submitTo_eq_bind]
  refine (mapping.context.tries_naming mapping.artifacts .testResult subject id _
    (tries_submitUnder mapping.context result)).imp ?_
  rintro _ (nameless | ⟨named, ⟨error, ⟨⟩⟩ | ⟨⟨⟩⟩⟩)
  · exact .unnamed nameless
  · exact .refused error named
  · exact .accepted named

/-! ## One record -/

/-- What a record contributes, by the class it is in: a failure if it is malformed; nothing if it is
passed over; a failure if it is about a test that there is no node for, or if the last completion
time of its execution does not read; otherwise an effort to submit the result that it tells for each
table that the test depends on, in order. -/
inductive Contributes (mapping : TestMapping σ) (position : Nat) (value : Json.Value) :
    List (Effort String) → Prop
  | malformed {error : Json.DecodeError}
      (undecoded : RunResult.decode .direct value = .error error) :
      Contributes mapping position value
        [⟨[], .error (.shape .testResult ("results[" ++ Number.decimal position ++ "]")
          error.message)⟩]
  | passedOver {record : RunResult}
      (decoded : RunResult.decode .direct value = .ok record)
      (noTest : mapping.tests.get? record.uniqueId = none)
      (foreign : mapping.artifacts.manifest.contains record.uniqueId = true ∨
        ¬ "test.".toList <+: record.uniqueId.toList) :
      Contributes mapping position value []
  | unknown {record : RunResult}
      (decoded : RunResult.decode .direct value = .ok record)
      (noTest : mapping.tests.get? record.uniqueId = none)
      (absent : mapping.artifacts.manifest.contains record.uniqueId = false)
      (isTest : "test.".toList <+: record.uniqueId.toList) :
      Contributes mapping position value
        [⟨[], .error (.miss .testResult record.uniqueId "no test node for this run result")⟩]
  | untimed {record : RunResult} {test : ManifestNode} {text : String}
      (decoded : RunResult.decode .direct value = .ok record)
      (known : mapping.tests.get? record.uniqueId = some test)
      (completed : record.LastCompletedAt text)
      (unread : Time.readMillis? text = none) :
      Contributes mapping position value
        [⟨[], .error (.shape .testResult record.uniqueId (Time.invalidMessage text))⟩]
  | submitted {record : RunResult} {test : ManifestNode} {result : TestResult}
      {efforts : List (Effort String)}
      (decoded : RunResult.decode .direct value = .ok record)
      (known : mapping.tests.get? record.uniqueId = some test)
      (tells : record.Tells result)
      (each : List.Forall₂ (mapping.Submission record.uniqueId test result) test.dependsOn
        efforts) :
      Contributes mapping position value efforts

/-- The number of outcomes that a record contributes. -/
def outcomesDue (mapping : TestMapping σ) (value : Json.Value) : Nat :=
  match RunResult.decode .direct value with
  | .error _ => 1
  | .ok record =>
      match mapping.tests.get? record.uniqueId with
      | none =>
          if mapping.artifacts.manifest.contains record.uniqueId = true ∨
              ¬ "test.".toList <+: record.uniqueId.toList then 0
          else 1
      | some test => if record.Mistimed then 1 else test.dependsOn.length

theorem isForeign_iff
    (mapping : TestMapping σ)
    (id : String) :
    mapping.isForeign id = true ↔
      mapping.artifacts.manifest.contains id = true ∨ ¬ "test.".toList <+: id.toList := by
  have begins : (Text.afterStart? "test.".toList id.toList).isSome = true ↔
      "test.".toList <+: id.toList := by
    rw [Option.isSome_iff_exists]
    simp only [Text.afterStart?_eq_some]
    exact ⟨fun ⟨rest, same⟩ => ⟨rest, same.symm⟩, fun ⟨rest, same⟩ => ⟨rest, same.symm⟩⟩
  rw [isForeign, Bool.or_eq_true, Bool.not_eq_true', ← Bool.not_eq_true, begins]

theorem isForeign_eq_false_iff
    (mapping : TestMapping σ)
    (id : String) :
    mapping.isForeign id = false ↔
      mapping.artifacts.manifest.contains id = false ∧ "test.".toList <+: id.toList := by
  rw [← Bool.not_eq_true, isForeign_iff, not_or, not_not, Bool.not_eq_true]

theorem makes_entryOutcomes
    (mapping : TestMapping σ)
    (position : Nat)
    (value : Json.Value) :
    Makes (mapping.entryOutcomes position value) (mapping.logged.entryOutcomes position value)
      (mapping.Contributes position value) := by
  unfold entryOutcomes
  cases decoded : RunResult.decode .direct value with
  | error error => exact makes_silently (.malformed decoded)
  | ok record =>
      change Makes (mapping.recordOutcomes record) (mapping.logged.recordOutcomes record) _
      unfold recordOutcomes
      have sameTests : mapping.logged.tests = mapping.tests := rfl
      rw [sameTests]
      cases known : mapping.tests.get? record.uniqueId with
      | none =>
          have sameForeign : mapping.logged.isForeign = mapping.isForeign := rfl
          rw [sameForeign]
          cases isForeign : mapping.isForeign record.uniqueId with
          | true =>
              have foreign := (mapping.isForeign_iff record.uniqueId).mp isForeign
              exact makes_silently (.passedOver decoded known foreign)
          | false =>
              obtain ⟨absent, isTest⟩ :=
                (mapping.isForeign_eq_false_iff record.uniqueId).mp isForeign
              exact makes_silently (.unknown decoded known absent isTest)
      | some test =>
          cases timed : record.completedMillis with
          | error text =>
              obtain ⟨completed, unread⟩ := RunResult.completedMillis_eq_error_iff.mp timed
              exact makes_silently (.untimed decoded known completed unread)
          | ok timestamp =>
              refine (makes_outcomesOf (fun id => mapping.tries_submitTo record.uniqueId test
                (resultOf record timestamp) id) test.dependsOn).imp fun efforts each => ?_
              rw [resultOf_eq] at each
              exact .submitted decoded known (tells_iff.mpr ⟨_, timed, rfl⟩) each

theorem Contributes.length_eq
    {mapping : TestMapping σ}
    {position : Nat}
    {value : Json.Value}
    {efforts : List (Effort String)}
    (contributes : mapping.Contributes position value efforts) :
    efforts.length = mapping.outcomesDue value := by
  unfold outcomesDue
  cases contributes with
  | malformed undecoded => rw [undecoded]; rfl
  | passedOver decoded noTest foreign =>
      simp only [decoded, noTest]
      exact (if_pos foreign).symm
  | unknown decoded noTest absent isTest =>
      simp only [decoded, noTest]
      exact (if_neg (not_or.mpr ⟨Bool.eq_false_iff.mp absent, not_not.mpr isTest⟩)).symm
  | @untimed record test text decoded known completed unread =>
      have mistimed : record.Mistimed := ⟨text, completed, unread⟩
      simp [decoded, known, mistimed]
  | submitted decoded known tells each =>
      simp [decoded, known, tells.timestamp.not_mistimed, each.length_eq]

/-- The contributions of numbered records have as many outcomes as are due. -/
theorem map_length_contributions
    {mapping : TestMapping σ}
    {position : Nat}
    {values : List Json.Value}
    {contributions : List (List (Effort String))}
    (each : List.Forall₂ (fun entry => mapping.Contributes entry.2 entry.1) (values.zipIdx position)
      contributions) :
    contributions.map List.length = values.map mapping.outcomesDue := by
  calc contributions.map List.length
      = (values.zipIdx position).map fun entry => mapping.outcomesDue entry.1 :=
        map_length_of_forall₂ (fun _ _ contributes => contributes.length_eq) each
    _ = ((values.zipIdx position).map Prod.fst).map mapping.outcomesDue := by
        rw [List.map_map, Function.comp_def]
    _ = values.map mapping.outcomesDue := by rw [List.zipIdx_map_fst]

/-! ## All records -/

theorem makes_outcomesFrom
    (mapping : TestMapping σ)
    (position : Nat)
    (values : List Json.Value) :
    Makes (mapping.outcomesFrom position values) (mapping.logged.outcomesFrom position values)
      fun efforts => ∃ contributions, efforts = contributions.flatten ∧
        List.Forall₂ (fun entry => mapping.Contributes entry.2 entry.1) (values.zipIdx position)
          contributions := by
  induction values generalizing position with
  | nil => exact makes_silently ⟨[], rfl, .nil⟩
  | cons value later inductionHypothesis =>
      refine ((mapping.makes_entryOutcomes position value).append
        (inductionHypothesis (position + 1))).imp ?_
      rintro _ ⟨efforts, _, rfl, contributes, contributions, rfl, each⟩
      exact ⟨efforts :: contributions, rfl, .cons contributes each⟩

/-- Attaching results counts the outcomes of all records. -/
theorem attachResults_eq_bind
    (mapping : TestMapping σ) :
    mapping.attachResults = (do
      let outcomes ← mapping.outcomesFrom 0 mapping.records
      return ⟨(successes outcomes).length, failuresAmong outcomes⟩) := by
  unfold attachResults records
  cases mapping.runResults <;> rfl

theorem traced_attachResults
    (mapping : TestMapping σ) :
    Traced mapping.attachResults mapping.logged.attachResults fun calls summary =>
      ∃ contributions : List (List (Effort String)),
        List.Forall₂ (fun entry => mapping.Contributes entry.2 entry.1) mapping.records.zipIdx
            contributions ∧
          calls = contributions.flatten.flatMap Effort.calls ∧
          summary = ⟨(successes (contributions.flatten.map Effort.outcome)).length,
            failuresAmong (contributions.flatten.map Effort.outcome)⟩ := by
  rw [attachResults_eq_bind, attachResults_eq_bind]
  refine (Traced.bind (mapping.makes_outcomesFrom 0 mapping.records) fun outcomes =>
    traced_pure (AttachSummary.mk (successes outcomes).length (failuresAmong outcomes))).imp ?_
  rintro _ _ ⟨_, _, _, rfl, ⟨_, ⟨contributions, rfl, each⟩, rfl, rfl⟩, rfl, rfl⟩
  exact ⟨contributions, each, List.append_nil _, rfl⟩

/-! ## Calls to submit -/

/-- Naming a dependency submits nothing. -/
theorem countP_isSubmission_of_names
    {artifacts : MergedArtifacts}
    {stage : Stage}
    {subject id : String}
    {request : ManifestNode → NameRequest}
    {effort : Effort String}
    (names : Effort.Names artifacts stage subject request id effort) :
    effort.calls.countP MappingEvent.isSubmission = 0 := by
  rw [List.countP_eq_zero]
  intro call member
  rw [MappingEvent.isSubmission_of_isQuestion (names.questions call member)]
  exact Bool.false_ne_true

theorem Submission.countP_le_one
    {mapping : TestMapping σ}
    {subject : String}
    {test : ManifestNode}
    {result : TestResult}
    {id : String}
    {effort : Effort String}
    (submission : mapping.Submission subject test result id effort) :
    effort.calls.countP MappingEvent.isSubmission ≤ 1 := by
  cases submission with
  | unnamed nameless => exact (countP_isSubmission_of_names nameless).le.trans (Nat.zero_le 1)
  | refused error named =>
      have before := countP_isSubmission_of_names named
      rw [List.countP_append, before]
      exact le_rfl
  | accepted named =>
      have before := countP_isSubmission_of_names named
      rw [List.countP_append, before]
      exact le_rfl

theorem Contributes.countP_le_one
    {mapping : TestMapping σ}
    {position : Nat}
    {value : Json.Value}
    {efforts : List (Effort String)}
    (contributes : mapping.Contributes position value efforts) :
    ∀ effort ∈ efforts, effort.calls.countP MappingEvent.isSubmission ≤ 1 := by
  cases contributes with
  | malformed undecoded => exact List.forall_mem_singleton.mpr (Nat.zero_le 1)
  | passedOver decoded noTest foreign => exact List.forall_mem_nil _
  | unknown decoded noTest absent isTest => exact List.forall_mem_singleton.mpr (Nat.zero_le 1)
  | untimed decoded known completed unread => exact List.forall_mem_singleton.mpr (Nat.zero_le 1)
  | submitted decoded known tells each =>
      exact forall_mem_of_forall₂ (fun _ _ submission => submission.countP_le_one) each

end TestMapping

/-- Attaching results, whatever the records, the artifacts and the test nodes are and whatever the
catalog answers. Writing the calls down changes nothing. Record by record, in order, there is a
contribution of the record's class, and the calls of all contributions are the calls that are made.
The summary counts the submissions that were accepted and lists the failures of all other outcomes,
so that together they are as many as the records' classes tell. No outcome takes more than one call
to submit a result. -/
theorem TestMapping.attachResults_by_class
    {σ : Type}
    (context : Context σ)
    (artifacts : MergedArtifacts)
    (tests : SortedMap ManifestNode)
    (records : List Json.Value)
    (state : σ) :
    let mapping : TestMapping σ := ⟨context, artifacts, tests, some ⟨records⟩⟩
    let attached := mapping.attachResults state
    ∃ contributions : List (List (Effort String)),
      List.Forall₂ (fun entry => mapping.Contributes entry.2 entry.1) records.zipIdx
          contributions ∧
        mapping.logged.attachResults ⟨state, []⟩ =
          (attached.1, ⟨attached.2, contributions.flatten.flatMap Effort.calls⟩) ∧
        attached.1.submitted =
          (successes (contributions.flatten.map Effort.outcome)).length ∧
        attached.1.failures = failuresAmong (contributions.flatten.map Effort.outcome) ∧
        attached.1.submitted + attached.1.failures.length =
          (records.map mapping.outcomesDue).sum ∧
        ∀ effort ∈ contributions.flatten,
          effort.calls.countP MappingEvent.isSubmission ≤ 1 := by
  intro mapping attached
  obtain ⟨_, same, contributions, each, rfl, made⟩ := mapping.traced_attachResults state []
  change attached.1 = _ at made
  change List.Forall₂ _ records.zipIdx contributions at each
  refine ⟨contributions, each, same, by rw [made], by rw [made], ?_, ?_⟩
  · rw [made, length_successes_add_length_failuresAmong, List.length_map, List.length_flatten,
      map_length_contributions each]
  · intro effort member
    obtain ⟨efforts, among, within⟩ := List.mem_flatten.mp member
    have limited := forall_mem_of_forall₂ (fun _ _ contributes => contributes.countP_le_one) each
    exact limited efforts among effort within

/-- A test of orders that also depends on a node which the manifest lacks, with some records, on the
in-memory catalog. -/
def TestMapping.ofOrders (records : List Json.Value) : TestMapping Store where
  context := .inMemory "shop"
  artifacts :=
    ⟨.ofList [("model.orders", { (default : ManifestNode) with name := "orders" })], .empty, []⟩
  tests := .ofList
    [("test.unique",
      { (default : ManifestNode) with
        name := "unique", resourceType := "test", dependsOn := ["model.orders", "model.gone"] })]
  runResults := some ⟨records⟩

/-- One record of each class: malformed, passed over, of an unknown test, with a last completion
time that is no timestamp though an earlier one is, and submitted. The last one contributes a
submission and a failure, one for each dependency, and its time is that of the last completed
execution. -/
theorem TestMapping.attachResults_by_class_on_orders :
    let read : TimingEntry := ⟨"execute", none, some "2023-01-01T00:00:00Z"⟩
    let unread : TimingEntry := ⟨"execute", none, some "yesterday"⟩
    let uncompleted : TimingEntry := ⟨"execute", none, none⟩
    let compiled : TimingEntry := ⟨"compile", none, some "2023-01-02T00:00:00Z"⟩
    let records : List Json.Value :=
      [.null, RunResult.listed "model.orders" "success" [],
        RunResult.listed "test.gone" "success" [],
        RunResult.listed "test.unique" "success" [read, unread],
        RunResult.listed "test.unique" "failure" [unread, read, uncompleted, compiled]]
    let mapping := ofOrders records
    let attached := mapping.attachResults
      ((Store.empty 0).addEntity .testCase "shop.default.default.orders.unique").2
    ∃ contributions : List (List (Effort String)),
      List.Forall₂ (fun entry => mapping.Contributes entry.2 entry.1) records.zipIdx
          contributions ∧
        contributions.map List.length = [1, 0, 1, 1, 2] ∧
        attached.1.submitted = 1 ∧
        attached.1.failures =
          [.shape .testResult "results[0]" "invalid type: null, expected struct RunResult",
            .miss .testResult "test.gone" "no test node for this run result",
            .shape .testResult "test.unique" "Invalid timestamp 'yesterday'",
            .shape .testResult "test.unique" "dependency 'model.gone' not found in manifest"] ∧
        attached.2.resultsOf "shop.default.default.orders.unique" =
          [⟨some 1672531200000, .failed, [⟨"test.unique", "0"⟩]⟩] := by
  intro read unread uncompleted compiled records mapping attached
  obtain ⟨contributions, each, -⟩ :=
    attachResults_by_class mapping.context mapping.artifacts mapping.tests records
      ((Store.empty 0).addEntity .testCase "shop.default.default.orders.unique").2
  have lengths : contributions.map List.length = records.map mapping.outcomesDue :=
    map_length_contributions each
  refine ⟨contributions, each, lengths.trans ?_, ?_, ?_, ?_⟩
  · decide +kernel
  · decide +kernel
  · decide +kernel
  · decide +kernel

end CatalogIngest
