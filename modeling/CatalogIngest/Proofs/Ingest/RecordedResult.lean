import CatalogIngest.Ingest.TestMapping

/-!
# The result that a record tells

A record of a run names its node, ends with a word for its status and lists the timed steps of the
node. What it tells of a test is stated here from these parts alone: the timestamp is the completion
time of the last execution step that has one, and the word decides the status and the value.
-/

namespace CatalogIngest

/-! ## Completion times -/

namespace TimingEntry

/-- A step is an execution and completed at a time. -/
structure CompletesAt (entry : TimingEntry) (text : String) : Prop where
  execution : entry.name = "execute"
  completed : entry.completedAt = some text

/-- The completion time of a step that is an execution. -/
def completion? (entry : TimingEntry) : Option String :=
  if entry.name = "execute" then entry.completedAt else none

theorem completion?_eq_some_iff
    {entry : TimingEntry}
    {text : String} :
    entry.completion? = some text ↔ entry.CompletesAt text := by
  unfold completion?
  constructor
  · intro found
    obtain ⟨execution, completed⟩ := Option.ite_none_right_eq_some.mp found
    exact ⟨execution, completed⟩
  · rintro ⟨execution, completed⟩
    rw [if_pos execution, completed]

theorem completion?_eq_none_iff
    {entry : TimingEntry} :
    entry.completion? = none ↔ ∀ text, ¬ entry.CompletesAt text := by
  rw [Option.eq_none_iff_forall_ne_some]
  exact forall_congr' fun text => not_congr completion?_eq_some_iff

end TimingEntry

namespace RunResult

/-- The last execution step of a record that has a completion time has this one. -/
def LastCompletedAt (record : RunResult) (text : String) : Prop :=
  ∃ earlier entry later, record.timing = earlier ++ entry :: later ∧ entry.CompletesAt text ∧
    ∀ other ∈ later, ∀ time, ¬ other.CompletesAt time

/-- No execution step of a record has a completion time. -/
def NeverCompleted (record : RunResult) : Prop :=
  ∀ entry ∈ record.timing, ∀ time, ¬ entry.CompletesAt time

/-- The last completion time of the execution of a record is no timestamp. -/
def Mistimed (record : RunResult) : Prop :=
  ∃ text, record.LastCompletedAt text ∧ Time.readMillis? text = none

/-- The timestamp of a record is that of the last completion time of its execution, in milliseconds;
there is none without such a time. -/
inductive StampedAt (record : RunResult) : Option Int64 → Prop
  | never (uncompleted : record.NeverCompleted) : StampedAt record none
  | last {text : String} {millis : Int} (completed : record.LastCompletedAt text)
      (read : Time.readMillis? text = some millis) :
      StampedAt record (some (Int64.ofInt millis))

theorem completedAt_eq_getLast?
    (record : RunResult) :
    record.completedAt = (record.timing.filterMap TimingEntry.completion?).getLast? := by
  unfold completedAt
  rw [List.filterMap_filter]
  simp only [decide_eq_true_eq]
  rfl

theorem completedAt_eq_some_iff
    {record : RunResult}
    {text : String} :
    record.completedAt = some text ↔ record.LastCompletedAt text := by
  rw [completedAt_eq_getLast?, List.getLast?_eq_some_iff]
  constructor
  · rintro ⟨times, split⟩
    -- The last time comes from an entry, and the entries behind it give no time.
    obtain ⟨front, back, same, -, fromHere⟩ := List.filterMap_eq_append_iff.mp split
    obtain ⟨skipped, entry, later, rfl, -, completes, none⟩ :=
      List.filterMap_eq_cons_iff.mp fromHere
    refine ⟨front ++ skipped, entry, later, by rw [same, List.append_assoc],
      TimingEntry.completion?_eq_some_iff.mp completes, fun other member => ?_⟩
    exact TimingEntry.completion?_eq_none_iff.mp (List.filterMap_eq_nil_iff.mp none other member)
  · rintro ⟨earlier, entry, later, split, completes, last⟩
    have none : later.filterMap TimingEntry.completion? = [] :=
      List.filterMap_eq_nil_iff.mpr fun other member =>
        TimingEntry.completion?_eq_none_iff.mpr (last other member)
    refine ⟨earlier.filterMap TimingEntry.completion?, ?_⟩
    rw [split, List.filterMap_append,
      List.filterMap_cons_some (TimingEntry.completion?_eq_some_iff.mpr completes), none]

theorem completedAt_eq_none_iff
    {record : RunResult} :
    record.completedAt = none ↔ record.NeverCompleted := by
  rw [completedAt_eq_getLast?, List.getLast?_eq_none_iff, List.filterMap_eq_nil_iff]
  exact forall₂_congr fun entry _ => TimingEntry.completion?_eq_none_iff

/-- A completion time fails to read exactly if it is the last one and no timestamp. -/
theorem completedMillis_eq_error_iff
    {record : RunResult}
    {text : String} :
    record.completedMillis = .error text ↔
      record.LastCompletedAt text ∧ Time.readMillis? text = none := by
  rw [← completedAt_eq_some_iff]
  unfold completedMillis
  cases record.completedAt with
  | none => simp
  | some completed =>
      dsimp only
      cases read : Time.readMillis? completed with
      | none =>
          rw [Except.error.injEq, Option.some.injEq]
          exact ⟨fun same => ⟨same, same ▸ read⟩, And.left⟩
      | some millis =>
          constructor
          · intro failed
            nomatch failed
          · rintro ⟨⟨⟩, unread⟩
            nomatch read.symm.trans unread

theorem completedMillis_eq_ok_iff
    {record : RunResult}
    {timestamp : Option Int64} :
    record.completedMillis = .ok timestamp ↔ record.StampedAt timestamp := by
  constructor
  · intro timed
    unfold completedMillis at timed
    cases completed : record.completedAt with
    | none =>
        rw [completed] at timed
        cases timed
        exact .never (completedAt_eq_none_iff.mp completed)
    | some text =>
        rw [completed] at timed
        dsimp only at timed
        cases read : Time.readMillis? text with
        | none =>
            rw [read] at timed
            nomatch timed
        | some millis =>
            rw [read] at timed
            cases timed
            exact .last (completedAt_eq_some_iff.mp completed) read
  · rintro (uncompleted | ⟨completed, read⟩)
    · rw [completedMillis, completedAt_eq_none_iff.mpr uncompleted]
    · rw [completedMillis, completedAt_eq_some_iff.mpr completed]
      dsimp only
      rw [read]

theorem mistimed_iff
    (record : RunResult) :
    record.Mistimed ↔ ∃ text, record.completedMillis = .error text :=
  exists_congr fun _ => completedMillis_eq_error_iff.symm

/-- A record of which it is known whether and when it completed is not mistimed. -/
theorem StampedAt.not_mistimed
    {record : RunResult}
    {timestamp : Option Int64}
    (stamped : record.StampedAt timestamp) :
    ¬ record.Mistimed := by
  rw [mistimed_iff]
  rintro ⟨text, failed⟩
  nomatch (completedMillis_eq_ok_iff.mpr stamped).symm.trans failed

instance (record : RunResult) : Decidable record.Mistimed :=
  decidable_of_iff (record.completedMillis.toOption = none) <| by
    rw [mistimed_iff]
    cases record.completedMillis with
    | error text => exact iff_of_true rfl ⟨text, rfl⟩
    | ok timestamp => exact iff_of_false (nomatch ·) fun ⟨_, failed⟩ => nomatch failed

/-- How a record with an id, a word for its status and timed steps is listed. -/
def listed (id word : String) (timing : List TimingEntry) : Json.Value :=
  .object
    [("unique_id", .string id), ("status", .string word),
      ("timing", .array (timing.map TimingEntry.encode))]

end RunResult

/-! ## Statuses and values -/

namespace TestStatus

/-- The text recorded with a status. -/
def mark : TestStatus → String
  | .success => "1"
  | .failed => "0"
  | .aborted => "-1"

theorem signedDecimal_value (status : TestStatus) :
    Number.signedDecimal status.value = status.mark := by
  cases status <;> decide

/-- The status and the value for the word that a run ends with: a success counts 1, a failure 0, and
any other word means an abortion, which counts -1. -/
inductive Rates : String → TestStatus → String → Prop
  | success : Rates "success" .success "1"
  | failure : Rates "failure" .failed "0"
  | other {word : String} (noSuccess : word ≠ "success") (noFailure : word ≠ "failure") :
      Rates word .aborted "-1"

theorem rates_iff
    {word : String}
    {status : TestStatus}
    {value : String} :
    Rates word status value ↔ status = ofRunStatus word ∧ value = status.mark := by
  constructor
  · rintro (_ | _ | ⟨noSuccess, noFailure⟩)
    · exact ⟨rfl, rfl⟩
    · exact ⟨rfl, rfl⟩
    · rw [ofRunStatus, if_neg noSuccess, if_neg noFailure]
      exact ⟨rfl, rfl⟩
  · rintro ⟨rfl, rfl⟩
    unfold ofRunStatus
    split
    next success => exact success ▸ .success
    next noSuccess =>
      split
      next failure => exact failure ▸ .failure
      next noFailure => exact .other noSuccess noFailure

end TestStatus

/-! ## Results -/

/-- The result that a record tells: at its timestamp, with the status for its word and, under its
own id, the value for it. -/
structure RunResult.Tells (record : RunResult) (result : TestResult) : Prop where
  timestamp : record.StampedAt result.timestamp
  values : ∃ value, TestStatus.Rates record.status result.status value ∧
    result.values = [⟨record.uniqueId, value⟩]

namespace TestMapping

variable {σ : Type}

/-- The records of the last execution, none if none were loaded. -/
def records (mapping : TestMapping σ) : List Json.Value :=
  (mapping.runResults.map RunResults.results).getD []

/-- The result that a record describes, with its completion time. -/
def recordedResult (record : RunResult) (timestamp : Option Int64) : TestResult :=
  ⟨timestamp, .ofRunStatus record.status,
    [⟨record.uniqueId, (TestStatus.ofRunStatus record.status).mark⟩]⟩

theorem resultOf_eq
    (record : RunResult)
    (timestamp : Option Int64) :
    resultOf record timestamp = recordedResult record timestamp := by
  rw [resultOf, TestStatus.signedDecimal_value]
  rfl

/-- A record tells one result, unless it is mistimed: the one that it is recorded with. -/
theorem tells_iff
    {record : RunResult}
    {result : TestResult} :
    record.Tells result ↔
      ∃ timestamp, record.completedMillis = .ok timestamp ∧
        result = recordedResult record timestamp := by
  constructor
  · rintro ⟨stamped, value, rated, values⟩
    obtain ⟨status, rfl⟩ := TestStatus.rates_iff.mp rated
    refine ⟨result.timestamp, RunResult.completedMillis_eq_ok_iff.mpr stamped, ?_⟩
    rw [recordedResult, ← status, ← values]
  · rintro ⟨timestamp, timed, rfl⟩
    refine ⟨RunResult.completedMillis_eq_ok_iff.mp timed, _, ?_, rfl⟩
    exact TestStatus.rates_iff.mpr ⟨rfl, rfl⟩

end TestMapping
end CatalogIngest
