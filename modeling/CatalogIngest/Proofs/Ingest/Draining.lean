import CatalogIngest.Ingest.Outcome
import CatalogIngest.Proofs.Ingest.Consumption

/-!
# Draining a sequence

A sequence is drained by pulling its items one after another and handing the successes over. What
each item came to says everything about the result: the successes among the outcomes were accepted,
and the failures among them are appended to the report in the same order, whether the sequence or the
receiver gave them. A receiver that writes its calls down has been called once for every success
among the items.
-/

namespace CatalogIngest

variable {σ ι μ α : Type}

open LazySequence (handOver)

/-! ## Recording failures -/

/-- Recording failures appends and counts them, and changes nothing else in a report. -/
theorem Report.recordAll_eq
    (report : Report)
    (failures : List Failure) :
    report.recordAll failures =
      { report with
        summary := { report.summary with
          failures := report.summary.failures + failures.length }
        failures := report.failures ++ failures } := by
  induction failures generalizing report with
  | nil =>
      rw [List.append_nil]
      rfl
  | cons failure later inductionHypothesis =>
      refine (inductionHypothesis (report.record failure)).trans ?_
      simp only [record, List.length_cons, List.append_assoc, List.singleton_append, Nat.add_assoc,
        Nat.add_comm 1]

/-! ## Pulling and handing over -/

/-- From a state, the items of a sequence are pulled and handed over one after another until the end
is met. Listed are the items and what each of them came to. -/
inductive Drains (deliver : α → StateM σ (Except Failure Unit)) :
    LazySequence σ ι μ (Except Failure α) → σ → List (Except Failure α) →
      List (Except Failure α) → σ → Prop
  | ended {sequence rest : LazySequence σ ι μ (Except Failure α)} {state final : σ}
      (pulled : sequence.pull state = ((none, rest), final)) :
      Drains deliver sequence state [] [] final
  | next {sequence rest : LazySequence σ ι μ (Except Failure α)} {state after reached final : σ}
      {item outcome : Except Failure α} {items outcomes : List (Except Failure α)}
      (pulled : sequence.pull state = ((some item, rest), after))
      (handed : handOver deliver item after = (outcome, reached))
      (later : Drains deliver rest reached items outcomes final) :
      Drains deliver sequence state (item :: items) (outcome :: outcomes) final

namespace Drains

variable
  {deliver : α → StateM σ (Except Failure Unit)}
  {sequence : LazySequence σ ι μ (Except Failure α)}
  {state final : σ}
  {items outcomes : List (Except Failure α)}

/-- How a sequence is drained depends on it only through what is pulled from it. -/
theorem of_pull_eq
    {other : LazySequence σ ι μ (Except Failure α)}
    {reached : σ}
    (same : other.pull reached = sequence.pull state)
    (drains : Drains deliver sequence state items outcomes final) :
    Drains deliver other reached items outcomes final := by
  cases drains with
  | ended pulled => exact .ended (same.trans pulled)
  | next pulled handed later => exact .next (same.trans pulled) handed later

/-- Every item comes to one outcome. -/
theorem length_eq
    (drains : Drains deliver sequence state items outcomes final) :
    outcomes.length = items.length := by
  induction drains with
  | ended pulled => rfl
  | next pulled handed later inductionHypothesis =>
      rw [List.length_cons, List.length_cons, inductionHypothesis]

/-- The items that were accepted are the successes among the outcomes, and the failures among them
are recorded. -/
theorem forward_eq
    (drains : Drains deliver sequence state items outcomes final)
    (report : Report) :
    sequence.forward deliver report state =
      ((successes outcomes, report.recordAll (failuresAmong outcomes)), final) := by
  induction drains generalizing report with
  | ended pulled =>
      rw [LazySequence.forward_pull, pulled]
      rfl
  | @next _ _ _ _ _ _ _ outcome _ _ pulled handed later inductionHypothesis =>
      rw [LazySequence.forward_pull, pulled]
      dsimp only
      rw [handed]
      cases outcome with
      | error failure => exact inductionHypothesis (report.record failure)
      | ok item =>
          rw [LazySequence.behind, inductionHypothesis]
          rfl

/-- Once no job is left, exactly the items at hand are pulled. -/
theorem items_eq_ready
    (drains : Drains deliver sequence state items outcomes final)
    (noJobs : sequence.pending = []) :
    items = sequence.ready := by
  induction drains with
  | @ended sequence rest state final pulled =>
      obtain ⟨work, memory, ready, jobs⟩ := sequence
      cases ready with
      | nil => rfl
      | cons item ready => nomatch pulled
  | @next sequence rest state after reached final item outcome items outcomes pulled handed later
      inductionHypothesis =>
      obtain ⟨work, memory, ready, jobs⟩ := sequence
      cases noJobs
      cases ready with
      | nil => nomatch pulled
      | cons first ready =>
          cases pulled
          exact congrArg (item :: ·) (inductionHypothesis rfl)

end Drains

theorem exists_drains_ready
    {deliver : α → StateM σ (Except Failure Unit)}
    {work : μ → ι → StateM σ (List (Except Failure α) × μ)}
    {memory : μ}
    {jobs : List ι}
    (pending : ∀ state, ∃ items outcomes final,
      Drains deliver ⟨work, memory, [], jobs⟩ state items outcomes final)
    (ready : List (Except Failure α))
    (state : σ) :
    ∃ items outcomes final,
      Drains deliver ⟨work, memory, ready, jobs⟩ state items outcomes final := by
  induction ready generalizing state with
  | nil => exact pending state
  | cons item ready inductionHypothesis =>
      obtain ⟨items, outcomes, final, later⟩ :=
        inductionHypothesis (handOver deliver item state).2
      exact ⟨_, _, final, .next rfl rfl later⟩

/-- Every sequence can be drained to its end. -/
theorem exists_drains
    (deliver : α → StateM σ (Except Failure Unit))
    (sequence : LazySequence σ ι μ (Except Failure α))
    (state : σ) :
    ∃ items outcomes final, Drains deliver sequence state items outcomes final := by
  obtain ⟨work, memory, ready, jobs⟩ := sequence
  induction jobs generalizing memory ready state with
  | nil => exact exists_drains_ready (fun state => ⟨[], [], state, .ended rfl⟩) ready state
  | cons job jobs inductionHypothesis =>
      refine exists_drains_ready (fun state => ?_) ready state
      obtain ⟨items, outcomes, final, drains⟩ := inductionHypothesis
        (work memory job state).2 (work memory job state).1.2 (work memory job state).1.1
      exact ⟨items, outcomes, final,
        drains.of_pull_eq (LazySequence.pull_job work memory job jobs state)⟩

/-! ## Writing calls down -/

/-- The same receiver, with the item of every call written down. -/
def logging {β : Type} (deliver : α → StateM σ β) (item : α) : StateM (σ × List α) β :=
  fun logged => ((deliver item logged.1).1, ((deliver item logged.1).2, logged.2 ++ [item]))

/-- The same sequence; its jobs write nothing down. -/
def LazySequence.logged {κ : Type} (sequence : LazySequence σ ι μ α) :
    LazySequence (σ × List κ) ι μ α where
  work memory job logged :=
    ((sequence.work memory job logged.1).1, ((sequence.work memory job logged.1).2, logged.2))
  memory := sequence.memory
  ready := sequence.ready
  pending := sequence.pending

theorem LazySequence.pull_logged
    {κ : Type}
    (sequence : LazySequence σ ι μ α)
    (state : σ)
    (calls : List κ) :
    sequence.logged.pull (state, calls) =
      (((sequence.pull state).1.1, (sequence.pull state).1.2.logged),
        ((sequence.pull state).2, calls)) := by
  obtain ⟨work, memory, ready, jobs⟩ := sequence
  induction jobs generalizing memory ready state with
  | nil => cases ready <;> rfl
  | cons job jobs inductionHypothesis =>
      cases ready with
      | nil =>
          rw [pull_job]
          exact (pull_job _ _ _ _ _).trans (inductionHypothesis _ _ _)
      | cons item ready => rfl

/-- The calls that are written down are those for the successes, once each and in order. -/
theorem Drains.logged
    {deliver : α → StateM σ (Except Failure Unit)}
    {sequence : LazySequence σ ι μ (Except Failure α)}
    {state final : σ}
    {items outcomes : List (Except Failure α)}
    (drains : Drains deliver sequence state items outcomes final)
    (calls : List α) :
    Drains (logging deliver) sequence.logged (state, calls) items outcomes
      (final, calls ++ successes items) := by
  induction drains generalizing calls with
  | ended pulled =>
      rw [successes, List.filterMap_nil, List.append_nil]
      exact .ended (by rw [LazySequence.pull_logged, pulled])
  | @next sequence rest state after reached final item outcome items outcomes pulled handed later
      inductionHypothesis =>
      have pulledLogged : sequence.logged.pull (state, calls) =
          ((some item, rest.logged), (after, calls)) := by
        rw [LazySequence.pull_logged, pulled]
      cases item with
      | error failure =>
          cases handed
          exact .next pulledLogged rfl (inductionHypothesis calls)
      | ok item =>
          have laterLogged := inductionHypothesis (calls ++ [item])
          rw [List.append_assoc] at laterLogged
          cases handed
          exact .next pulledLogged rfl laterLogged

/-! ## The result -/

theorem drainItems_eq
    (items : List (Except Failure α))
    (report : Report) :
    drainItems items report = (successes items, report.recordAll (failuresAmong items)) := by
  unfold drainItems
  induction items generalizing report with
  | nil => rfl
  | cons item later inductionHypothesis =>
      rw [LazySequence.forwardItems_cons]
      cases item with
      | error failure => exact inductionHypothesis (report.record failure)
      | ok item =>
          exact congrArg (fun drained => (item :: drained.1, drained.2)) (inductionHypothesis report)

/-- Forwarding a sequence pulls its items one after another and calls the receiver once for every
success, in order. It returns the items that were accepted and appends to the report the failures of
the sequence and of the receiver, in order; together they are as many as the items. Collecting the
successes among some items records the failures in the same way. -/
theorem forwarding_exact
    (deliver : α → StateM σ (Except Failure Unit))
    (sequence : LazySequence σ ι μ (Except Failure α))
    (state : σ) :
    (∃ items outcomes final,
      Drains deliver sequence state items outcomes final ∧
      (sequence.pending = [] → items = sequence.ready) ∧
      (∀ report, sequence.forward deliver report state =
        ((successes outcomes,
          { report with
            summary := { report.summary with
              failures := report.summary.failures + (failuresAmong outcomes).length }
            failures := report.failures ++ failuresAmong outcomes }), final)) ∧
      (∀ report calls, sequence.logged.forward (logging deliver) report (state, calls) =
        ((sequence.forward deliver report state).1, (final, calls ++ successes items))) ∧
      (successes outcomes).length + (failuresAmong outcomes).length = items.length) ∧
    ∀ (items : List (Except Failure α)) report, drainItems items report =
      (successes items,
        { report with
          summary := { report.summary with
            failures := report.summary.failures + (failuresAmong items).length }
          failures := report.failures ++ failuresAmong items }) := by
  constructor
  · obtain ⟨items, outcomes, final, drains⟩ := exists_drains deliver sequence state
    refine ⟨items, outcomes, final, drains, drains.items_eq_ready, ?_, ?_, ?_⟩
    · intro report
      rw [drains.forward_eq, Report.recordAll_eq]
    · intro report calls
      rw [(drains.logged calls).forward_eq, drains.forward_eq]
    · rw [length_successes_add_length_failuresAmong, drains.length_eq]
  · intro items report
    rw [drainItems_eq, Report.recordAll_eq]

/-- A receiver that counts its calls and refuses all but the first. -/
def acceptingOnce (item : String) : StateM Nat (Except Failure Unit) := fun calls =>
  (if calls = 0 then .ok () else .error (.external .testCase item "catalog unavailable"), calls + 1)

/-- Two successes around a failure, with no job left. -/
def mixedItems : LazySequence Nat Unit Unit (Except Failure String) where
  work _ _ calls := (([], ()), calls)
  memory := ()
  ready := [.ok "orders", .error (.miss .testCase "customers" "table not found"), .ok "payments"]
  pending := []

theorem forwarding_exact_on_mixedItems :
    mixedItems.pending = [] ∧
      ∃ outcomes final, Drains acceptingOnce mixedItems 0 mixedItems.ready outcomes final ∧
        mixedItems.logged.forward (logging acceptingOnce) (.new "svc" "") (0, []) =
          ((mixedItems.forward acceptingOnce (.new "svc" "") 0).1, (final, ["orders", "payments"])) ∧
        (successes outcomes).length + (failuresAmong outcomes).length = 3 := by
  obtain ⟨⟨items, outcomes, final, drains, eager, -, logged, counted⟩, -⟩ :=
    forwarding_exact acceptingOnce mixedItems 0
  cases eager rfl
  exact ⟨rfl, outcomes, final, drains, logged (.new "svc" "") [], counted⟩

end CatalogIngest
