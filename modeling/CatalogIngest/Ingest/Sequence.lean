import CatalogIngest.Report

/-!
# Lazy sequences of items

The stages of a run produce their items job by job: the items of a job are computed together when
the first of them is asked for, and all are handed out before the next job starts. So a consumer
that applies each item as it comes changes what later jobs see.
-/

namespace CatalogIngest

/-- A sequence of items that jobs produce on demand. -/
structure LazySequence (σ ι μ α : Type) where
  /-- The items of a job, given what earlier jobs left in memory. -/
  work : μ → ι → StateM σ (List α × μ)
  memory : μ
  ready : List α
  pending : List ι

namespace LazySequence

variable {σ ι μ α : Type}

/-- The sequence of the items of some jobs. -/
def ofJobs (work : μ → ι → StateM σ (List α × μ)) (memory : μ) (jobs : List ι) :
    LazySequence σ ι μ α :=
  ⟨work, memory, [], jobs⟩

/-- Work until a job gives an item. -/
def nextBatch (work : μ → ι → StateM σ (List α × μ)) :
    μ → List ι → StateM σ (Option α × LazySequence σ ι μ α)
  | memory, [] => fun state => ((none, ⟨work, memory, [], []⟩), state)
  | memory, job :: jobs => fun state =>
      match work memory job state with
      | (([], memory), state) => nextBatch work memory jobs state
      | ((item :: ready, memory), state) => ((some item, ⟨work, memory, ready, jobs⟩), state)

/-- Take the next item. -/
def pull (sequence : LazySequence σ ι μ α) : StateM σ (Option α × LazySequence σ ι μ α) :=
  match sequence.ready with
  | item :: ready => fun state => ((some item, { sequence with ready := ready }), state)
  | [] => nextBatch sequence.work sequence.memory sequence.pending

/-- The items of all remaining jobs. -/
def runJobs (work : μ → ι → StateM σ (List α × μ)) : μ → List ι → StateM σ (List α × μ)
  | memory, [] => fun state => (([], memory), state)
  | memory, job :: jobs => fun state =>
      let ((items, memory), state) := work memory job state
      let ((later, memory), state) := runJobs work memory jobs state
      ((items ++ later, memory), state)

/-- Take all items that are left. -/
def pullAll (sequence : LazySequence σ ι μ α) : StateM σ (List α × LazySequence σ ι μ α) :=
  fun state =>
    let ((items, memory), state) := runJobs sequence.work sequence.memory sequence.pending state
    ((sequence.ready ++ items, ⟨sequence.work, memory, [], []⟩), state)

/-- Take at most so many items; also whether the end was met. -/
def pullSome : Nat → LazySequence σ ι μ α →
    StateM σ (List α × Bool × LazySequence σ ι μ α)
  | 0, sequence => fun state => (([], false, sequence), state)
  | limit + 1, sequence => fun state =>
      match sequence.pull state with
      | ((none, sequence), state) => (([], true, sequence), state)
      | ((some item, sequence), state) =>
          let ((items, ended, sequence), state) := pullSome limit sequence state
          ((item :: items, ended, sequence), state)

/-- Take at most so many items, or all that are left; also whether the end was met. -/
def pullUpTo (limit : Option Nat) (sequence : LazySequence σ ι μ α) :
    StateM σ (List α × Bool × LazySequence σ ι μ α) :=
  match limit with
  | some limit => pullSome limit sequence
  | none => fun state =>
      let ((items, sequence), state) := sequence.pullAll state
      ((items, true, sequence), state)

end LazySequence

/-- Hand every success among some items to a receiver, recording failures and refusals in a report;
the items that were accepted, in order. -/
def forwardItems {σ α : Type} (deliver : α → StateM σ (Except Failure Unit)) :
    List (Except Failure α) → Report → StateM σ (List α × Report)
  | [], report => fun state => (([], report), state)
  | .error failure :: later, report => forwardItems deliver later (report.record failure)
  | .ok item :: later, report => fun state =>
      match deliver item state with
      | (.error failure, state) => forwardItems deliver later (report.record failure) state
      | (.ok (), state) =>
          let ((accepted, report), state) := forwardItems deliver later report state
          ((item :: accepted, report), state)

/-- Forward the items of jobs, each job's items before the next job starts. -/
def forwardJobs {σ ι μ α : Type} (deliver : α → StateM σ (Except Failure Unit))
    (work : μ → ι → StateM σ (List (Except Failure α) × μ)) :
    μ → List ι → Report → StateM σ (List α × Report)
  | _, [], report => fun state => (([], report), state)
  | memory, job :: jobs, report => fun state =>
      let ((items, memory), state) := work memory job state
      let ((accepted, report), state) := forwardItems deliver items report state
      let ((later, report), state) := forwardJobs deliver work memory jobs report state
      ((accepted ++ later, report), state)

namespace LazySequence

variable {σ ι μ α : Type}

/-- Forward a whole sequence. -/
def forward (sequence : LazySequence σ ι μ (Except Failure α))
    (deliver : α → StateM σ (Except Failure Unit)) (report : Report) :
    StateM σ (List α × Report) := fun state =>
  let ((accepted, report), state) := forwardItems deliver sequence.ready report state
  let ((later, report), state) :=
    forwardJobs deliver sequence.work sequence.memory sequence.pending report state
  ((accepted ++ later, report), state)

end LazySequence

/-- Collect the successes among some items, recording the failures in a report. -/
def drainItems {α : Type} (items : List (Except Failure α)) (report : Report) :
    List α × Report :=
  (forwardItems (σ := Unit) (fun _ state => (.ok (), state)) items report ()).1

end CatalogIngest
