import CatalogIngest.Ingest.Outcome
import CatalogIngest.Proofs.Ingest.Consumption
import Mathlib.Data.List.Basic

/-!
# Forwarding without disturbance

Jobs that only ask, and whose questions are answered alike before and after their items are handed
over, give the items that they would give all at once. When the receiver decides on each item by
itself, the whole forwarding can be read off those items: which are accepted, which failures are
recorded and what becomes of the state.
-/

namespace CatalogIngest

variable {σ ι μ α : Type}

/-! ## Forwarding a list of items -/

theorem forwardItems_append
    (deliver : α → StateM σ (Except Failure Unit))
    (earlier later : List (Except Failure α))
    (report : Report)
    (state : σ) :
    forwardItems deliver (earlier ++ later) report state =
      let first := forwardItems deliver earlier report state
      let second := forwardItems deliver later first.1.2 first.2
      ((first.1.1 ++ second.1.1, second.1.2), second.2) := by
  induction earlier generalizing report state with
  | nil => rfl
  | cons item earlier inductionHypothesis =>
      cases item with
      | error failure => exact inductionHypothesis (report.record failure) state
      | ok item =>
          rw [List.cons_append, forwardItems, forwardItems]
          dsimp only
          rcases deliver item state with ⟨failure | _, after⟩
          · exact inductionHypothesis (report.record failure) after
          · dsimp only
            rw [inductionHypothesis]
            rfl

/-- What becomes of the state when all items are handed over. -/
def deliverAll (deliver : α → StateM σ (Except Failure Unit)) (items : List (Except Failure α))
    (state : σ) : σ :=
  items.foldl (fun current item => LazySequence.delivering deliver item current) state

/-- A receiver decides on an item by itself: as long as a condition holds of the state, which it
keeps, it refuses the item with a given failure or takes it. -/
structure Decides (deliver : α → StateM σ (Except Failure Unit)) (keeps : σ → Prop)
    (verdict : α → Option Failure) : Prop where
  kept : ∀ item state, keeps state → keeps (deliver item state).2
  decided : ∀ item state, keeps state →
    (deliver item state).1 =
      match verdict item with
      | none => .ok ()
      | some failure => .error failure

/-- The failure that an item leads to, if it leads to one. -/
def failureOf (verdict : α → Option Failure) : Except Failure α → Option Failure
  | .error failure => some failure
  | .ok item => verdict item

/-- The items that are accepted. -/
def acceptedAmong (verdict : α → Option Failure) (items : List (Except Failure α)) : List α :=
  (successes items).filter fun item => (verdict item).isNone

/-- A receiver that takes everything accepts all successes. -/
theorem acceptedAmong_of_taking (items : List (Except Failure α)) :
    acceptedAmong (fun _ => none) items = successes items :=
  List.filter_eq_self.mpr fun _ _ => rfl

/-- With a receiver that takes everything, only failures are recorded. -/
theorem filterMap_failureOf_of_taking (items : List (Except Failure α)) :
    items.filterMap (failureOf fun _ => none) = failuresAmong items := by
  apply List.filterMap_congr
  intro item _
  cases item <;> rfl

theorem Decides.forwardItems_eq
    {deliver : α → StateM σ (Except Failure Unit)}
    {keeps : σ → Prop}
    {verdict : α → Option Failure}
    (decides : Decides deliver keeps verdict)
    (items : List (Except Failure α))
    (report : Report)
    {state : σ}
    (start : keeps state) :
    forwardItems deliver items report state =
      ((acceptedAmong verdict items, report.recordAll (items.filterMap (failureOf verdict))),
        deliverAll deliver items state) := by
  induction items generalizing report state with
  | nil => rfl
  | cons item later inductionHypothesis =>
      cases item with
      | error failure => exact inductionHypothesis (report.record failure) start
      | ok item =>
          have rest := decides.kept item state start
          have answered := decides.decided item state start
          rw [forwardItems, deliverAll, List.foldl_cons, LazySequence.delivering]
          dsimp only
          revert rest answered
          rcases deliver item state with ⟨answer, after⟩
          intro rest answered
          dsimp only at rest answered
          subst answered
          cases decision : verdict item with
          | none =>
              dsimp only
              rw [inductionHypothesis report rest]
              simp [acceptedAmong, successes, failureOf, decision, deliverAll]
          | some failure =>
              dsimp only
              rw [inductionHypothesis (report.record failure) rest]
              simp [acceptedAmong, successes, failureOf, decision, deliverAll, Report.recordAll]

/-! ## Forwarding jobs -/

namespace LazySequence

/-- As long as a condition holds of where a sequence stands, its jobs only ask, and they are answered
as in a fixed state. Jobs and hand-overs keep the condition. -/
structure Undisturbed (holds : Standing σ ι μ (Except Failure α)) (base : σ)
    (work : μ → ι → StateM σ (List (Except Failure α) × μ))
    (deliver : α → StateM σ (Except Failure Unit)) : Prop where
  asks : ∀ memory job state, (work memory job state).2 = state
  alike : ∀ state memory job jobs, holds state memory [] (job :: jobs) →
    (work memory job state).1 = (work memory job base).1
  jobsKeep : KeptByJobs holds work
  consumerKeeps : KeptByConsumer holds (delivering deliver)

variable
  {holds : Standing σ ι μ (Except Failure α)}
  {base : σ}
  {work : μ → ι → StateM σ (List (Except Failure α) × μ)}
  {deliver : α → StateM σ (Except Failure Unit)}

/-- Handing items over leads where delivering them leads, and keeps a condition on the way. -/
theorem keeps_forwardItems
    (consumerKeeps : KeptByConsumer holds (delivering deliver))
    (ready : List (Except Failure α))
    {memory : μ}
    {jobs : List ι}
    (report : Report)
    {state : σ}
    (start : holds state memory ready jobs) :
    holds (forwardItems deliver ready report state).2 memory [] jobs := by
  induction ready generalizing report state with
  | nil => exact start
  | cons item ready inductionHypothesis =>
      obtain ⟨next, sameState, -⟩ := forwardItems_cons_snd deliver item ready report state
      rw [sameState]
      exact inductionHypothesis next (consumerKeeps _ _ _ _ _ start)

/-- The items of a job, and what it leaves in memory, before the later jobs. -/
theorem runJobs_cons
    (work : μ → ι → StateM σ (List α × μ))
    (asks : ∀ memory job state, (work memory job state).2 = state)
    (memory : μ)
    (job : ι)
    (jobs : List ι)
    (state : σ) :
    runJobs work memory (job :: jobs) state =
      (((work memory job state).1.1 ++ (runJobs work (work memory job state).1.2 jobs state).1.1,
        (runJobs work (work memory job state).1.2 jobs state).1.2),
        (runJobs work (work memory job state).1.2 jobs state).2) := by
  have left : work memory job state = ((work memory job state).1, state) :=
    Prod.ext rfl (asks memory job state)
  rw [runJobs]
  dsimp only
  rw [left]
  rfl

/-- Undisturbed jobs are forwarded as the items that they give in the fixed state. -/
theorem Undisturbed.forwardJobs_eq
    (undisturbed : Undisturbed holds base work deliver)
    (jobs : List ι)
    {memory : μ}
    (report : Report)
    {state : σ}
    (start : holds state memory [] jobs) :
    forwardJobs deliver work memory jobs report state =
        forwardItems deliver (runJobs work memory jobs base).1.1 report state ∧
      holds (forwardJobs deliver work memory jobs report state).2
        (runJobs work memory jobs base).1.2 [] [] := by
  induction jobs generalizing memory report state with
  | nil => exact ⟨rfl, start⟩
  | cons job jobs inductionHypothesis =>
      have worked := undisturbed.jobsKeep state memory job jobs start
      have alike := undisturbed.alike state memory job jobs start
      rw [undisturbed.asks, alike] at worked
      have handed := keeps_forwardItems undisturbed.consumerKeeps _ report worked
      obtain ⟨same, reached⟩ := inductionHypothesis
        (forwardItems deliver (work memory job base).1.1 report state).1.2 handed
      have step : forwardJobs deliver work memory (job :: jobs) report state =
          let first := forwardItems deliver (work memory job base).1.1 report state
          let second := forwardJobs deliver work (work memory job base).1.2 jobs first.1.2 first.2
          ((first.1.1 ++ second.1.1, second.1.2), second.2) := by
        have answered : work memory job state = ((work memory job base).1, state) :=
          Prod.ext alike (undisturbed.asks memory job state)
        rw [forwardJobs]
        dsimp only
        rw [answered]
        rfl
      rw [step, runJobs_cons work undisturbed.asks, forwardItems_append]
      refine ⟨?_, reached⟩
      dsimp only
      rw [same]

/-- An undisturbed sequence with a receiver that decides by itself: what is accepted, what is
recorded, and what becomes of the state. -/
theorem Undisturbed.forward_eq
    (undisturbed : Undisturbed holds base work deliver)
    {keeps : σ → Prop}
    {verdict : α → Option Failure}
    (decides : Decides deliver keeps verdict)
    (memory : μ)
    (jobs : List ι)
    (report : Report)
    {state : σ}
    (start : holds state memory [] jobs)
    (kept : keeps state) :
    let items := (runJobs work memory jobs base).1.1
    (LazySequence.ofJobs work memory jobs).forward deliver report state =
        ((acceptedAmong verdict items, report.recordAll (items.filterMap (failureOf verdict))),
          deliverAll deliver items state) ∧
      holds (deliverAll deliver items state) (runJobs work memory jobs base).1.2 [] [] := by
  intro items
  obtain ⟨forwarded, reached⟩ := undisturbed.forwardJobs_eq jobs report start
  rw [forwarded, decides.forwardItems_eq items report kept] at reached
  exact ⟨forwarded.trans (decides.forwardItems_eq items report kept), reached⟩

/-- Jobs that remember nothing give the items of each in turn. -/
theorem items_runJobs_of_forgetful
    (work : Unit → ι → StateM σ (List α × Unit))
    (asks : ∀ memory job state, (work memory job state).2 = state)
    (jobs : List ι)
    (state : σ) :
    (runJobs work () jobs state).1.1 = jobs.flatMap fun job => (work () job state).1.1 := by
  induction jobs with
  | nil => rfl
  | cons job jobs inductionHypothesis =>
      rw [runJobs_cons work asks, List.flatMap_cons, ← inductionHypothesis]

end LazySequence
end CatalogIngest
