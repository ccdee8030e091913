import CatalogIngest.Ingest.Run
import CatalogIngest.Proofs.Ingest.Draining
import Mathlib.Algebra.GroupWithZero.Nat

/-!
# What becomes of the items of a stage

A stage is worked through item by item: the next item is pulled, and unless it is a failure already
it is handed to a receiver, which takes it or refuses it with an error. The settlements of a stage
list what became of each item in turn. Forwarding a sequence returns exactly the items that were
taken and records exactly the other ones as failures.
-/

namespace CatalogIngest

/-- How the items of a stage are received: by which call, and what a failure for a refusal names. -/
structure Receiver (σ α β : Type) where
  stage : Stage
  subject : α → String
  call : α → CatalogCall σ β

/-- Hand an item over. -/
def Receiver.deliver {σ α β : Type} (receiver : Receiver σ α β) (item : α) :
    StateM σ (Except Failure Unit) :=
  Sink.outcome receiver.stage (receiver.subject item) (receiver.call item)

/-- What becomes of an item: it is a failure already, it is taken, or it is refused. -/
inductive Settlement (α : Type)
  | failed (failure : Failure)
  | accepted (item : α)
  | refused (item : α) (error : CatalogError)

namespace Settlement

variable {α : Type}

/-- The item as the stage gave it. -/
def yielded : Settlement α → Except Failure α
  | .failed failure => .error failure
  | .accepted item => .ok item
  | .refused item _ => .ok item

/-- The item, if it was taken. -/
def taken? : Settlement α → Option α
  | .accepted item => some item
  | _ => none

/-- The failure to record, unless the item was taken. A refusal fails at the receiver's stage. -/
def failure? {σ β : Type} (receiver : Receiver σ α β) : Settlement α → Option Failure
  | .failed failure => some failure
  | .accepted _ => none
  | .refused item error => some (.external receiver.stage (receiver.subject item) error.message)

/-- The items that were taken, in order. -/
def taken (settlements : List (Settlement α)) : List α :=
  settlements.filterMap taken?

/-- The failures to record, in order. -/
def failures {σ β : Type} (receiver : Receiver σ α β) (settlements : List (Settlement α)) :
    List Failure :=
  settlements.filterMap (failure? receiver)

@[simp] theorem taken_cons
    (settlement : Settlement α)
    (later : List (Settlement α)) :
    taken (settlement :: later) = settlement.taken?.toList ++ taken later := by
  cases settlement <;> rfl

@[simp] theorem failures_cons
    {σ β : Type}
    (receiver : Receiver σ α β)
    (settlement : Settlement α)
    (later : List (Settlement α)) :
    failures receiver (settlement :: later) =
      (settlement.failure? receiver).toList ++ failures receiver later := by
  cases settlement <;> rfl

/-- Every item is either taken or recorded as a failure, and never both. -/
theorem length_taken_add_length_failures
    {σ β : Type}
    (receiver : Receiver σ α β)
    (settlements : List (Settlement α)) :
    (taken settlements).length + (failures receiver settlements).length =
      settlements.length := by
  induction settlements with
  | nil => rfl
  | cons settlement later inductionHypothesis =>
      rw [taken_cons, failures_cons, List.length_append, List.length_append, List.length_cons]
      have once : settlement.taken?.toList.length +
          (settlement.failure? receiver).toList.length = 1 := by
        cases settlement <;> rfl
      omega

end Settlement

/-! ## Working through a stage -/

variable {σ ι μ α β : Type}

/-- What happens when an item is handed over: a failure stays one, and any other item is taken or
refused as the receiver answers. -/
inductive Handed (receiver : Receiver σ α β) : Except Failure α → σ → Settlement α → σ → Prop
  | failed (failure : Failure) (state : σ) :
      Handed receiver (.error failure) state (.failed failure) state
  | accepted {item : α} {answer : β} {state next : σ}
      (answered : receiver.call item state = (.ok answer, next)) :
      Handed receiver (.ok item) state (.accepted item) next
  | refused {item : α} {error : CatalogError} {state next : σ}
      (answered : receiver.call item state = (.error error, next)) :
      Handed receiver (.ok item) state (.refused item error) next

theorem Handed.yielded_eq
    {receiver : Receiver σ α β}
    {item : Except Failure α}
    {state next : σ}
    {settlement : Settlement α}
    (handed : Handed receiver item state settlement next) :
    settlement.yielded = item := by
  cases handed <;> rfl

/-- From a state, the items of a sequence are pulled and handed over one after another until the end
is met; the settlements say what became of each. -/
inductive Settles (receiver : Receiver σ α β) :
    LazySequence σ ι μ (Except Failure α) → σ → List (Settlement α) → σ → Prop
  | ended {sequence rest : LazySequence σ ι μ (Except Failure α)} {state final : σ}
      (pulled : sequence.pull state = ((none, rest), final)) :
      Settles receiver sequence state [] final
  | next {sequence rest : LazySequence σ ι μ (Except Failure α)} {state after reached final : σ}
      {item : Except Failure α} {settlement : Settlement α} {settlements : List (Settlement α)}
      (pulled : sequence.pull state = ((some item, rest), after))
      (handed : Handed receiver item after settlement reached)
      (later : Settles receiver rest reached settlements final) :
      Settles receiver sequence state (settlement :: settlements) final

namespace Settles

end Settles

/-! ## Forwarding a stage -/

/-- What forwarding a sequence comes to is read off the settlements of its items: those that were
taken are returned, and all others are recorded as failures. -/
def ForwardSettles (receiver : Receiver σ α β)
    (sequence : LazySequence σ ι μ (Except Failure α)) (state : σ)
    (settlements : List (Settlement α)) (final : σ) : Prop :=
  Settles receiver sequence state settlements final ∧
    ∀ report, sequence.forward receiver.deliver report state =
      ((Settlement.taken settlements,
        report.recordAll (Settlement.failures receiver settlements)), final)

/-- Handing an item over settles it: an item that is taken is a success, and any other a failure. -/
theorem exists_handed
    (receiver : Receiver σ α β)
    (item : Except Failure α)
    (state : σ) :
    ∃ settlement,
      Handed receiver item state settlement
        (LazySequence.handOver receiver.deliver item state).2 ∧
      successes [(LazySequence.handOver receiver.deliver item state).1] =
        settlement.taken?.toList ∧
      failuresAmong [(LazySequence.handOver receiver.deliver item state).1] =
        (settlement.failure? receiver).toList := by
  cases item with
  | error failure => exact ⟨.failed failure, .failed failure state, rfl, rfl⟩
  | ok item =>
      unfold LazySequence.handOver Receiver.deliver Sink.outcome
      dsimp only
      rcases answered : receiver.call item state with ⟨error | answer, next⟩
      · exact ⟨.refused item error, .refused answered, rfl, rfl⟩
      · exact ⟨.accepted item, .accepted answered, rfl, rfl⟩

/-- Draining a stage settles its items. -/
theorem Drains.exists_settles
    {receiver : Receiver σ α β}
    {sequence : LazySequence σ ι μ (Except Failure α)}
    {state final : σ}
    {items outcomes : List (Except Failure α)}
    (drains : Drains receiver.deliver sequence state items outcomes final) :
    ∃ settlements, Settles receiver sequence state settlements final ∧
      successes outcomes = Settlement.taken settlements ∧
      failuresAmong outcomes = Settlement.failures receiver settlements := by
  induction drains with
  | ended pulled => exact ⟨[], .ended pulled, rfl, rfl⟩
  | @next _ _ _ after _ _ item _ _ outcomes pulled handed later inductionHypothesis =>
      obtain ⟨settlements, settles, sameTaken, sameFailures⟩ := inductionHypothesis
      obtain ⟨settlement, settled, taken, failed⟩ := exists_handed receiver item after
      rw [handed] at settled taken failed
      refine ⟨settlement :: settlements, .next pulled settled settles, ?_, ?_⟩
      · rw [Settlement.taken_cons, ← taken, ← sameTaken, ← successes_append]
        rfl
      · rw [Settlement.failures_cons, ← failed, ← sameFailures, ← failuresAmong_append]
        rfl

/-- Every forwarding of a sequence works through its items one by one. -/
theorem exists_forwardSettles
    (receiver : Receiver σ α β)
    (sequence : LazySequence σ ι μ (Except Failure α))
    (state : σ) :
    ∃ settlements final, ForwardSettles receiver sequence state settlements final := by
  obtain ⟨items, outcomes, final, drains⟩ := exists_drains receiver.deliver sequence state
  obtain ⟨settlements, settles, sameTaken, sameFailures⟩ := drains.exists_settles
  refine ⟨settlements, final, settles, fun report => ?_⟩
  rw [drains.forward_eq, sameTaken, sameFailures]

/-! ## What the items are -/

namespace LazySequence

/-- A condition on the items of a sequence: those at hand, and those of every job. -/
structure Yields (sequence : LazySequence σ ι μ α) (good : α → Prop) : Prop where
  ready : ∀ item ∈ sequence.ready, good item
  jobs : ∀ memory job state, ∀ item ∈ (sequence.work memory job state).1.1, good item

theorem Yields.of_pull
    {good : α → Prop}
    {sequence rest : LazySequence σ ι μ α}
    {state after : σ}
    {item : α}
    (yields : sequence.Yields good)
    (pulled : sequence.pull state = ((some item, rest), after)) :
    good item ∧ rest.Yields good := by
  have reached : AfterPull (fun _ _ ready _ => ∀ item ∈ ready, good item) sequence.work
      (sequence.pull state) := by
    apply afterPull_pull
    · intro state memory job jobs _
      exact yields.jobs memory job state
    · exact yields.ready
  rw [pulled] at reached
  obtain ⟨sameWork, items⟩ := reached
  dsimp only at sameWork items
  obtain ⟨itemGood, readyGood⟩ := List.forall_mem_cons.mp items
  refine ⟨itemGood, readyGood, ?_⟩
  rw [sameWork]
  exact yields.jobs

/-- A sequence gives a number of items for each of its jobs. -/
def Gives (sequence : LazySequence σ ι μ α) (count : ι → Nat) : Prop :=
  ∀ memory job state, (sequence.work memory job state).1.1.length = count job

/-- The number of items still to come. -/
def itemsLeft (count : ι → Nat) (ready : List α) (jobs : List ι) : Nat :=
  ready.length + (jobs.map count).sum

theorem Gives.afterPull
    {count : ι → Nat}
    {sequence : LazySequence σ ι μ α}
    (gives : sequence.Gives count)
    (state : σ) :
    AfterPull
      (fun _ _ ready jobs =>
        itemsLeft count ready jobs = itemsLeft count sequence.ready sequence.pending)
      sequence.work (sequence.pull state) := by
  apply afterPull_pull
  · intro state memory job jobs same
    rw [← same, itemsLeft, itemsLeft, gives, List.map_cons, List.sum_cons, List.length_nil,
      Nat.zero_add]
  · rfl

end LazySequence

namespace Settles

variable {receiver : Receiver σ α β}

/-- What holds of the items at hand and of the items of every job holds of all items. -/
theorem forall_yielded
    {good : Except Failure α → Prop}
    {sequence : LazySequence σ ι μ (Except Failure α)}
    {state final : σ}
    {settlements : List (Settlement α)}
    (settles : Settles receiver sequence state settlements final)
    (yields : sequence.Yields good) :
    ∀ settlement ∈ settlements, good settlement.yielded := by
  induction settles with
  | ended pulled => exact List.forall_mem_nil _
  | next pulled handed later inductionHypothesis =>
      obtain ⟨itemGood, restYields⟩ := yields.of_pull pulled
      rw [← handed.yielded_eq] at itemGood
      exact List.forall_mem_cons.mpr ⟨itemGood, inductionHypothesis restYields⟩

/-- Every item that jobs give is settled once. -/
theorem length_eq_itemsLeft
    {count : ι → Nat}
    {sequence : LazySequence σ ι μ (Except Failure α)}
    {state final : σ}
    {settlements : List (Settlement α)}
    (settles : Settles receiver sequence state settlements final)
    (gives : sequence.Gives count) :
    settlements.length = LazySequence.itemsLeft count sequence.ready sequence.pending := by
  induction settles with
  | @ended sequence rest state final pulled =>
      have left := gives.afterPull state
      rw [pulled] at left
      exact left.2.2.2
  | @next sequence rest state after reached final item settlement settlements pulled handed later
      inductionHypothesis =>
      have left := gives.afterPull state
      rw [pulled] at left
      obtain ⟨sameWork, same⟩ := left
      dsimp only at sameWork same
      have restGives : rest.Gives count := by
        unfold LazySequence.Gives
        rw [sameWork]
        exact gives
      rw [← same, List.length_cons, inductionHypothesis restGives]
      unfold LazySequence.itemsLeft
      rw [List.length_cons]
      omega

end Settles
end CatalogIngest
