import CatalogIngest.Ingest.Sequence

/-!
# Consuming a sequence item by item

A consumer takes the items of a sequence one at a time and may act on the state in between. Taking
some items and forwarding all of them are both of this kind. The laws here reduce what holds during
such a consumption to what one job does and what one hand-over does.
-/

namespace CatalogIngest
namespace LazySequence

variable {σ τ ι μ α : Type}

/-- Take items one by one, each handed to the next of some consumers before more work is done; also
whether the end was met. -/
def handOut : List (α → σ → σ) → LazySequence σ ι μ α →
    StateM σ (List α × Bool × LazySequence σ ι μ α)
  | [], sequence => fun state => (([], false, sequence), state)
  | consume :: later, sequence => fun state =>
      match sequence.pull state with
      | ((none, sequence), state) => (([], true, sequence), state)
      | ((some item, sequence), state) =>
          let ((items, ended, sequence), state) := handOut later sequence (consume item state)
          ((item :: items, ended, sequence), state)

/-! ## Ways to consume a sequence -/

/-- Taking a number of items is handing them to consumers that do nothing. -/
theorem pullSome_eq_handOut
    (limit : Nat)
    (sequence : LazySequence σ ι μ α) :
    sequence.pullSome limit = handOut (List.replicate limit fun _ state => state) sequence := by
  induction limit generalizing sequence with
  | zero => rfl
  | succ limit inductionHypothesis =>
      funext state
      rw [List.replicate_succ, pullSome, handOut]
      dsimp only
      rcases sequence.pull state with ⟨⟨_ | item, rest⟩, after⟩
      · rfl
      · exact congrArg (fun taken => ((item :: taken.1.1, taken.1.2), taken.2))
          (congrFun (inductionHypothesis rest) after)

/-- Hand an item over if it is a success. -/
def delivering (deliver : α → StateM σ (Except Failure Unit)) : Except Failure α → σ → σ
  | .error _, state => state
  | .ok item, state => (deliver item state).2

/-- What handing an item over comes to: a failure stays one, and a success that the receiver refuses
becomes one. -/
def handOver (deliver : α → StateM σ (Except Failure Unit)) :
    Except Failure α → StateM σ (Except Failure α)
  | .error failure => fun state => (.error failure, state)
  | .ok item => fun state => ((deliver item state).1.map fun _ => item, (deliver item state).2)

theorem handOver_snd
    (deliver : α → StateM σ (Except Failure Unit))
    (item : Except Failure α)
    (state : σ) :
    (handOver deliver item state).2 = delivering deliver item state := by
  cases item <;> rfl

/-- What forwarding comes to behind the outcome of one item: an item that was taken stands before
those taken later, and a failure is recorded before those met later. -/
def behind (outcome : Except Failure α) (forwardLater : Report → (List α × Report) × σ)
    (report : Report) : (List α × Report) × σ :=
  match outcome with
  | .error failure => forwardLater (report.record failure)
  | .ok item =>
      let ((accepted, report), state) := forwardLater report
      ((item :: accepted, report), state)

theorem exists_behind_snd
    (outcome : Except Failure α)
    (forwardLater : Report → (List α × Report) × σ)
    (report : Report) :
    ∃ next, (behind outcome forwardLater report).1.2 = (forwardLater next).1.2 ∧
      (behind outcome forwardLater report).2 = (forwardLater next).2 := by
  cases outcome with
  | error failure => exact ⟨report.record failure, rfl, rfl⟩
  | ok item => exact ⟨report, rfl, rfl⟩

theorem forwardItems_cons
    (deliver : α → StateM σ (Except Failure Unit))
    (item : Except Failure α)
    (later : List (Except Failure α))
    (report : Report)
    (state : σ) :
    forwardItems deliver (item :: later) report state =
      behind (handOver deliver item state).1
        (fun report => forwardItems deliver later report (handOver deliver item state).2) report := by
  cases item with
  | error failure => rfl
  | ok item =>
      rw [forwardItems, handOver]
      dsimp only
      rcases deliver item state with ⟨failure | _, after⟩
      · rfl
      · rfl

theorem forwardItems_cons_snd
    (deliver : α → StateM σ (Except Failure Unit))
    (item : Except Failure α)
    (later : List (Except Failure α))
    (report : Report)
    (state : σ) :
    ∃ next, (forwardItems deliver (item :: later) report state).2 =
        (forwardItems deliver later next (delivering deliver item state)).2 ∧
      (forwardItems deliver (item :: later) report state).1.2 =
        (forwardItems deliver later next (delivering deliver item state)).1.2 := by
  rw [forwardItems_cons, ← handOver_snd]
  obtain ⟨next, sameReport, sameState⟩ := exists_behind_snd (handOver deliver item state).1
    (fun report => forwardItems deliver later report (handOver deliver item state).2) report
  exact ⟨next, sameState, sameReport⟩

/-- Once the items at hand are used up, the next job is done and its items are at hand. -/
theorem pull_job
    (work : μ → ι → StateM σ (List α × μ))
    (memory : μ)
    (job : ι)
    (jobs : List ι)
    (state : σ) :
    pull ⟨work, memory, [], job :: jobs⟩ state =
      pull ⟨work, (work memory job state).1.2, (work memory job state).1.1, jobs⟩
        (work memory job state).2 := by
  unfold pull
  dsimp only
  rw [nextBatch]
  dsimp only
  rcases work memory job state with ⟨⟨_ | ⟨item, ready⟩, rest⟩, after⟩ <;> rfl

theorem forward_ready
    (work : μ → ι → StateM σ (List (Except Failure α) × μ))
    (memory : μ)
    (item : Except Failure α)
    (ready : List (Except Failure α))
    (jobs : List ι)
    (deliver : α → StateM σ (Except Failure Unit))
    (report : Report)
    (state : σ) :
    forward ⟨work, memory, item :: ready, jobs⟩ deliver report state =
      behind (handOver deliver item state).1
        (fun report => forward ⟨work, memory, ready, jobs⟩ deliver report
          (handOver deliver item state).2) report := by
  unfold forward
  dsimp only
  rw [forwardItems_cons]
  cases (handOver deliver item state).1 <;> rfl

/-- Forwarding hands over the item that is pulled and then forwards what is left. -/
theorem forward_pull
    (sequence : LazySequence σ ι μ (Except Failure α))
    (deliver : α → StateM σ (Except Failure Unit))
    (report : Report)
    (state : σ) :
    sequence.forward deliver report state =
      match sequence.pull state with
      | ((none, _), after) => (([], report), after)
      | ((some item, rest), after) =>
          behind (handOver deliver item after).1
            (fun report => rest.forward deliver report (handOver deliver item after).2) report := by
  obtain ⟨work, memory, ready, jobs⟩ := sequence
  induction jobs generalizing memory ready state with
  | nil =>
      cases ready with
      | nil => rfl
      | cons item ready => exact forward_ready work memory item ready [] deliver report state
  | cons job jobs inductionHypothesis =>
      cases ready with
      | nil =>
          rw [pull_job]
          exact inductionHypothesis _ _ _
      | cons item ready => exact forward_ready work memory item ready _ deliver report state

/-- Forwarding a whole sequence leads to the state that handing its items out leads to, when each
consumer delivers its item and the end is met. -/
theorem forward_eq_handOut
    (deliver : α → StateM σ (Except Failure Unit))
    (count : Nat)
    (sequence : LazySequence σ ι μ (Except Failure α))
    (report : Report)
    (state : σ)
    (ended : (handOut (List.replicate count (delivering deliver)) sequence state).1.2.1 = true) :
    (sequence.forward deliver report state).2 =
      (handOut (List.replicate count (delivering deliver)) sequence state).2 := by
  induction count generalizing sequence report state with
  | zero => nomatch ended
  | succ count inductionHypothesis =>
      rw [List.replicate_succ, handOut] at ended ⊢
      rw [forward_pull]
      revert ended
      dsimp only
      rcases sequence.pull state with ⟨⟨_ | item, rest⟩, after⟩
      · exact fun _ => rfl
      · intro ended
        obtain ⟨next, -, sameState⟩ := exists_behind_snd (handOver deliver item after).1
          (fun report => rest.forward deliver report (handOver deliver item after).2) report
        dsimp only
        rw [sameState, handOver_snd]
        exact inductionHypothesis rest next (delivering deliver item after) ended

/-! ## What a pull keeps -/

/-- Where a sequence stands: what its jobs left in memory, which items wait to be handed out and
which jobs wait to be done. -/
abbrev Standing (σ ι μ α : Type) := σ → μ → List α → List ι → Prop

/-- A job keeps a condition on where its sequence stands. -/
def KeptByJobs
    (holds : Standing σ ι μ α)
    (work : μ → ι → StateM σ (List α × μ)) : Prop :=
  ∀ state memory job jobs, holds state memory [] (job :: jobs) →
    holds (work memory job state).2 (work memory job state).1.2 (work memory job state).1.1 jobs

/-- A consumer keeps a condition on where the sequence stands that it takes an item of. -/
def KeptByConsumer
    (holds : Standing σ ι μ α)
    (consume : α → σ → σ) : Prop :=
  ∀ state memory item ready jobs, holds state memory (item :: ready) jobs →
    holds (consume item state) memory ready jobs

/-- After a pull a condition holds with the pulled item back in its place; at the end nothing is
left. -/
def AfterPull
    (holds : Standing σ ι μ α)
    (work : μ → ι → StateM σ (List α × μ))
    (result : (Option α × LazySequence σ ι μ α) × σ) : Prop :=
  result.1.2.work = work ∧
    match result.1.1 with
    | none => result.1.2.ready = [] ∧ result.1.2.pending = [] ∧
        holds result.2 result.1.2.memory [] []
    | some item => holds result.2 result.1.2.memory (item :: result.1.2.ready) result.1.2.pending

theorem afterPull_nextBatch
    {holds : Standing σ ι μ α}
    {work : μ → ι → StateM σ (List α × μ)}
    (jobsKeep : KeptByJobs holds work)
    (jobs : List ι)
    {memory : μ}
    {state : σ}
    (start : holds state memory [] jobs) :
    AfterPull holds work (nextBatch work memory jobs state) := by
  induction jobs generalizing memory state with
  | nil => exact ⟨rfl, rfl, rfl, start⟩
  | cons job jobs inductionHypothesis =>
      have worked := jobsKeep state memory job jobs start
      rw [nextBatch]
      revert worked
      dsimp only
      rcases work memory job state with ⟨⟨_ | ⟨item, ready⟩, rest⟩, after⟩
      · exact inductionHypothesis
      · exact fun worked => ⟨rfl, worked⟩

theorem afterPull_pull
    {holds : Standing σ ι μ α}
    {sequence : LazySequence σ ι μ α}
    (jobsKeep : KeptByJobs holds sequence.work)
    {state : σ}
    (start : holds state sequence.memory sequence.ready sequence.pending) :
    AfterPull holds sequence.work (sequence.pull state) := by
  rcases sequence with ⟨work, memory, _ | ⟨item, ready⟩, jobs⟩
  · exact afterPull_nextBatch jobsKeep jobs start
  · exact ⟨rfl, start⟩

/-- What jobs and consumers keep holds when they are through, with nothing left if the end was
met. -/
theorem handOut_keeps
    {holds : Standing σ ι μ α}
    (consumers : List (α → σ → σ))
    (consumersKeep : ∀ consume ∈ consumers, KeptByConsumer holds consume)
    (sequence : LazySequence σ ι μ α)
    (jobsKeep : KeptByJobs holds sequence.work)
    (state : σ)
    (start : holds state sequence.memory sequence.ready sequence.pending) :
    let result := handOut consumers sequence state
    holds result.2 result.1.2.2.memory result.1.2.2.ready result.1.2.2.pending ∧
      (result.1.2.1 = true → result.1.2.2.ready = [] ∧ result.1.2.2.pending = []) := by
  induction consumers generalizing sequence state with
  | nil => exact ⟨start, fun ended => nomatch ended⟩
  | cons consume later inductionHypothesis =>
      have pulled := afterPull_pull jobsKeep start
      rw [handOut]
      revert pulled
      dsimp only
      rcases sequence.pull state with ⟨⟨_ | item, rest⟩, after⟩
      · rintro ⟨-, noneReady, nonePending, holding⟩
        dsimp only at noneReady nonePending holding ⊢
        rw [noneReady, nonePending]
        exact ⟨holding, fun _ => ⟨rfl, rfl⟩⟩
      · rintro ⟨sameWork, holding⟩
        dsimp only at sameWork holding ⊢
        refine inductionHypothesis ?_ rest ?_ _ ?_
        · exact fun consumer member => consumersKeep consumer (List.mem_cons_of_mem _ member)
        · rw [sameWork]
          exact jobsKeep
        · exact consumersKeep consume List.mem_cons_self _ _ _ _ _ holding

/-- A record that jobs leave alone, and that every consumer adds its item to, gains exactly the
items that are handed out. -/
theorem handOut_records
    (record : σ → List α)
    (consumers : List (α → σ → σ))
    (recorded : ∀ consume ∈ consumers, ∀ item state,
      record (consume item state) = record state ++ [item])
    (sequence : LazySequence σ ι μ α)
    (untouched : ∀ memory job state, record (sequence.work memory job state).2 = record state)
    (state : σ) :
    record (handOut consumers sequence state).2 =
      record state ++ (handOut consumers sequence state).1.1 := by
  induction consumers generalizing sequence state with
  | nil => exact (List.append_nil _).symm
  | cons consume later inductionHypothesis =>
      have pulled : AfterPull (fun reached _ _ _ => record reached = record state) sequence.work
          (sequence.pull state) := by
        refine afterPull_pull ?_ rfl
        intro reached memory job jobs same
        rw [untouched, same]
      rw [handOut]
      revert pulled
      dsimp only
      rcases sequence.pull state with ⟨⟨_ | item, rest⟩, after⟩
      · rintro ⟨-, -, -, same⟩
        exact same.trans (List.append_nil _).symm
      · rintro ⟨sameWork, same⟩
        dsimp only at sameWork same ⊢
        have stillUntouched : ∀ memory job state,
            record (rest.work memory job state).2 = record state := by
          rw [sameWork]
          exact untouched
        have gained := inductionHypothesis
          (fun consumer member => recorded consumer (List.mem_cons_of_mem _ member))
          rest stillUntouched (consume item after)
        rw [recorded consume List.mem_cons_self, same, List.append_assoc] at gained
        exact gained

/-! ## Reaching the end -/

/-- The number of items still to come is at most so much when each job gives at most `most`. -/
def AtMost (most budget : Nat) : Standing σ ι μ α := fun _ _ ready jobs =>
  ready.length + most * jobs.length ≤ budget

theorem pull_atMost
    {sequence : LazySequence σ ι μ α}
    {most : Nat}
    (small : ∀ memory job state, (sequence.work memory job state).1.1.length ≤ most)
    {budget : Nat}
    (state : σ)
    (start : AtMost most budget state sequence.memory sequence.ready sequence.pending) :
    AfterPull (AtMost most budget) sequence.work (sequence.pull state) := by
  refine afterPull_pull ?_ start
  intro state memory job jobs within
  have given := small memory job state
  rw [AtMost, List.length_nil, List.length_cons, Nat.mul_succ] at within
  rw [AtMost]
  omega

/-- Consumers that outnumber the items meet the end. -/
theorem handOut_ends
    (consumers : List (α → σ → σ))
    (sequence : LazySequence σ ι μ α)
    {most : Nat}
    (small : ∀ memory job state, (sequence.work memory job state).1.1.length ≤ most)
    (state : σ)
    (enough : sequence.ready.length + most * sequence.pending.length < consumers.length) :
    (handOut consumers sequence state).1.2.1 = true := by
  induction consumers generalizing sequence state with
  | nil => exact absurd enough (Nat.not_lt_zero _)
  | cons consume later inductionHypothesis =>
      have pulled := pull_atMost small state (Nat.le_of_lt_succ enough)
      rw [handOut]
      revert pulled
      dsimp only
      rcases sequence.pull state with ⟨⟨_ | item, rest⟩, after⟩
      · exact fun _ => rfl
      · rintro ⟨sameWork, within⟩
        dsimp only at sameWork within ⊢
        rw [AtMost, List.length_cons] at within
        refine inductionHypothesis rest ?_ _ ?_
        · rw [sameWork]
          exact small
        · omega

/-! ## Two views of one consumption -/

/-- Jobs that do the same on a richer state as on the part of it that a view shows. -/
def Simulates
    (view : τ → σ)
    (rich : μ → ι → StateM τ (List α × μ))
    (plain : μ → ι → StateM σ (List α × μ)) : Prop :=
  ∀ memory job state,
    (rich memory job state).1 = (plain memory job (view state)).1 ∧
      view (rich memory job state).2 = (plain memory job (view state)).2

/-- Results over a richer state and over the part of it that a view shows, with the same item and
the same things left. -/
structure SamePull
    (view : τ → σ)
    (rich : (Option α × LazySequence τ ι μ α) × τ)
    (plain : (Option α × LazySequence σ ι μ α) × σ) : Prop where
  item : rich.1.1 = plain.1.1
  memory : rich.1.2.memory = plain.1.2.memory
  ready : rich.1.2.ready = plain.1.2.ready
  pending : rich.1.2.pending = plain.1.2.pending
  works : Simulates view rich.1.2.work plain.1.2.work
  state : view rich.2 = plain.2

theorem samePull_nextBatch
    {view : τ → σ}
    {rich : μ → ι → StateM τ (List α × μ)}
    {plain : μ → ι → StateM σ (List α × μ)}
    (works : Simulates view rich plain)
    (jobs : List ι)
    (memory : μ)
    (state : τ) :
    SamePull view (nextBatch rich memory jobs state)
      (nextBatch plain memory jobs (view state)) := by
  induction jobs generalizing memory state with
  | nil => exact ⟨rfl, rfl, rfl, rfl, works, rfl⟩
  | cons job jobs inductionHypothesis =>
      obtain ⟨sameItems, sameState⟩ := works memory job state
      rw [nextBatch, nextBatch]
      revert sameItems sameState
      dsimp only
      rcases plain memory job (view state) with ⟨⟨plainItems, plainMemory⟩, plainState⟩
      rcases rich memory job state with ⟨⟨_ | ⟨item, ready⟩, rest⟩, after⟩
      · intro sameItems sameState
        obtain ⟨rfl, rfl⟩ := Prod.mk.inj sameItems
        cases sameState
        exact inductionHypothesis rest after
      · intro sameItems sameState
        obtain ⟨rfl, rfl⟩ := Prod.mk.inj sameItems
        exact ⟨rfl, rfl, rfl, rfl, works, sameState⟩

/-- A consumption over a richer state hands out the same items as over the part of it that a view
shows. -/
theorem handOut_view
    (view : τ → σ)
    (lift : (α → σ → σ) → α → τ → τ)
    (lifted : ∀ consume item state, view (lift consume item state) = consume item (view state))
    (consumers : List (α → σ → σ))
    (rich : LazySequence τ ι μ α)
    (plain : LazySequence σ ι μ α)
    (works : Simulates view rich.work plain.work)
    (memory : rich.memory = plain.memory)
    (ready : rich.ready = plain.ready)
    (pending : rich.pending = plain.pending)
    (state : τ) :
    (handOut (consumers.map lift) rich state).1.1 =
        (handOut consumers plain (view state)).1.1 ∧
      (handOut (consumers.map lift) rich state).1.2.1 =
        (handOut consumers plain (view state)).1.2.1 ∧
      view (handOut (consumers.map lift) rich state).2 =
        (handOut consumers plain (view state)).2 := by
  induction consumers generalizing rich plain state with
  | nil => exact ⟨rfl, rfl, rfl⟩
  | cons consume later inductionHypothesis =>
      have same : SamePull view (rich.pull state) (plain.pull (view state)) := by
        rcases rich with ⟨richWork, richMemory, richReady, richPending⟩
        rcases plain with ⟨plainWork, plainMemory, plainReady, plainPending⟩
        cases memory
        cases ready
        cases pending
        cases richReady with
        | nil => exact samePull_nextBatch works richPending richMemory state
        | cons item rest => exact ⟨rfl, rfl, rfl, rfl, works, rfl⟩
      rw [List.map_cons, handOut, handOut]
      revert same
      dsimp only
      rcases plain.pull (view state) with ⟨⟨plainItem, plainRest⟩, plainState⟩
      rcases rich.pull state with ⟨⟨_ | item, richRest⟩, richState⟩
      · rintro ⟨⟨⟩, -, -, -, -, sameState⟩
        exact ⟨rfl, rfl, sameState⟩
      · rintro ⟨⟨⟩, sameMemory, sameReady, samePending, sameWorks, sameState⟩
        have later := inductionHypothesis _ _ sameWorks sameMemory sameReady samePending
          (lift consume item richState)
        rw [lifted, sameState] at later
        exact ⟨congrArg (item :: ·) later.1, later.2⟩

end LazySequence
end CatalogIngest
