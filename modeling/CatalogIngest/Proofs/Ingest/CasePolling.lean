import CatalogIngest.Ingest.TestMapping
import CatalogIngest.Proofs.Ingest.Consumption

/-!
# Asking for cases again and again

A sequence of cases can be asked for its next item at any time, also after its end, and whoever asks
may act on the catalog in between. Up to the end the items are handed out; when the end is first
met, results are attached; afterwards nothing happens but what the askers do.
-/

namespace CatalogIngest

/-- What someone who asks for the next case does with the catalog on being answered. -/
abbrev CaseAsker (σ : Type) := Option (Except Failure CaseRequest) → σ → σ

namespace LazySequence

end LazySequence

namespace CaseAsker

variable {σ : Type}

/-- What an asker does with an item. -/
def onItem (asker : CaseAsker σ) : Except Failure CaseRequest → σ → σ :=
  fun item => asker (some item)

/-- What askers do who are told in turn that there is no item. -/
def onEnd (askers : List (CaseAsker σ)) (state : σ) : σ :=
  askers.foldl (fun state asker => asker none state) state

/-- Askers that do nothing without an item leave the catalog as it is. -/
theorem onEnd_of_idle
    {askers : List (CaseAsker σ)}
    (idle : ∀ asker ∈ askers, ∀ state, asker none state = state)
    (state : σ) :
    onEnd askers state = state := by
  induction askers with
  | nil => rfl
  | cons asker later inductionHypothesis =>
      obtain ⟨first, rest⟩ := List.forall_mem_cons.mp idle
      rw [onEnd, List.foldl_cons, first]
      exact inductionHypothesis rest

end CaseAsker

namespace CaseSequence

variable {σ : Type}

/-- Ask a sequence for its next item again and again, also after its end; the answers. -/
def poll : List (CaseAsker σ) → CaseSequence σ →
    StateM σ (List (Option (Except Failure CaseRequest)) × CaseSequence σ)
  | [], sequence => fun state => (([], sequence), state)
  | asker :: later, sequence => fun state =>
      let ((answer, sequence), state) := sequence.pull state
      let ((answers, sequence), state) := poll later sequence (asker answer state)
      ((answer :: answers, sequence), state)

/-! ## Before and after the end -/

/-- A sequence that met its end gives nothing more and leaves the catalog to its askers. -/
theorem poll_finished
    (askers : List (CaseAsker σ))
    (mapping : TestMapping σ)
    (work : Unit → String × ManifestNode → StateM σ (List (Except Failure CaseRequest) × Unit))
    (summary : AttachSummary)
    (state : σ) :
    let finished : CaseSequence σ := ⟨mapping, ⟨work, (), [], []⟩, some summary⟩
    finished.poll askers state =
      ((List.replicate askers.length none, finished), CaseAsker.onEnd askers state) := by
  intro finished
  induction askers generalizing state with
  | nil => rfl
  | cons asker later inductionHypothesis =>
      have pulled : finished.pull state = ((none, finished), state) := rfl
      rw [poll]
      dsimp only
      rw [pulled]
      dsimp only
      rw [inductionHypothesis]
      rfl

/-- The items that are handed out before the end, and what is left then. -/
abbrev taken (askers : List (CaseAsker σ)) (sequence : CaseSequence σ) :=
  sequence.cases.handOut (askers.map CaseAsker.onItem)

theorem finish_unattached
    (mapping : TestMapping σ)
    (cases : LazySequence σ (String × ManifestNode) Unit (Except Failure CaseRequest))
    (state : σ) :
    finish ⟨mapping, cases, none⟩ state =
      (⟨mapping, cases, some (mapping.attachResults state).1⟩, (mapping.attachResults state).2) :=
  rfl

theorem pull_of_item
    {sequence : CaseSequence σ}
    {item : Except Failure CaseRequest}
    {rest : LazySequence σ (String × ManifestNode) Unit (Except Failure CaseRequest)}
    {state after : σ}
    (pulled : sequence.cases.pull state = ((some item, rest), after)) :
    sequence.pull state = ((some item, ⟨sequence.mapping, rest, sequence.attachment⟩), after) := by
  rw [pull, pulled]

theorem pull_of_end
    {sequence : CaseSequence σ}
    (unattached : sequence.attachment = none)
    {rest : LazySequence σ (String × ManifestNode) Unit (Except Failure CaseRequest)}
    {state after : σ}
    (pulled : sequence.cases.pull state = ((none, rest), after)) :
    sequence.pull state =
      ((none, ⟨sequence.mapping, rest, some (sequence.mapping.attachResults after).1⟩),
        (sequence.mapping.attachResults after).2) := by
  rw [pull, pulled]
  dsimp only
  rw [unattached, finish_unattached]

/-- What becomes of asking, given what was handed out until the end was met or the asking stopped.
If the end was met, results were attached there, once, and the other askers were told that there is
no item. -/
def concluded (mapping : TestMapping σ) (askers : List (CaseAsker σ)) :
    (List (Except Failure CaseRequest) × Bool ×
        LazySequence σ (String × ManifestNode) Unit (Except Failure CaseRequest)) × σ →
      (List (Option (Except Failure CaseRequest)) × CaseSequence σ) × σ
  | ((items, true, cases), state) =>
      ((items.map some ++ List.replicate (askers.length - items.length) none,
          ⟨mapping, cases, some (mapping.attachResults state).1⟩),
        CaseAsker.onEnd (askers.drop items.length) (mapping.attachResults state).2)
  | ((items, false, cases), state) => ((items.map some, ⟨mapping, cases, none⟩), state)

section Concluded

variable
  (mapping : TestMapping σ)
  (askers : List (CaseAsker σ))
  {taken : (List (Except Failure CaseRequest) × Bool ×
    LazySequence σ (String × ManifestNode) Unit (Except Failure CaseRequest)) × σ}

end Concluded

/-- Asking hands out items up to the end, attaches results there, and gives nothing afterwards. -/
theorem poll_eq_concluded
    (askers : List (CaseAsker σ))
    (sequence : CaseSequence σ)
    (unattached : sequence.attachment = none)
    (state : σ) :
    sequence.poll askers state =
      concluded sequence.mapping askers (sequence.taken askers state) := by
  induction askers generalizing sequence state with
  | nil =>
      obtain ⟨mapping, cases, attachment⟩ := sequence
      cases unattached
      rfl
  | cons asker later inductionHypothesis =>
      have afterPull : LazySequence.AfterPull (fun _ _ _ _ => True) sequence.cases.work
          (sequence.cases.pull state) :=
        LazySequence.afterPull_pull (fun _ _ _ _ _ => trivial) trivial
      rw [taken, poll, List.map_cons, LazySequence.handOut]
      dsimp only
      revert afterPull
      rcases pulled : sequence.cases.pull state with ⟨⟨_ | item, rest⟩, after⟩
      · rintro ⟨-, noneReady, nonePending, -⟩
        obtain ⟨work, memory, ready, pending⟩ := rest
        cases noneReady
        cases nonePending
        rw [pull_of_end unattached pulled]
        dsimp only
        rw [poll_finished]
        rfl
      · intro _
        have goesOn := inductionHypothesis ⟨sequence.mapping, rest, none⟩ rfl
          (asker (some item) after)
        rw [pull_of_item pulled, unattached]
        dsimp only at goesOn ⊢
        rw [goesOn, CaseAsker.onItem]
        dsimp only [taken]
        rcases LazySequence.handOut (later.map CaseAsker.onItem) rest (asker (some item) after) with
          ⟨⟨items, _ | _, cases⟩, reached⟩
        · rfl
        · simp only [concluded, List.length_cons, Nat.add_sub_add_right, List.drop_succ_cons,
            List.map_cons, List.cons_append]

/-! ## The ways in which cases are taken -/

/-- Taking a number of cases is asking as often and leaving the catalog alone. -/
theorem pullUpTo_eq_poll
    (limit : Nat)
    (sequence : CaseSequence σ)
    (unattached : sequence.attachment = none)
    (state : σ) :
    let polled := sequence.poll (List.replicate limit fun _ state => state) state
    sequence.pullUpTo (some limit) state =
      ((polled.1.1.filterMap id, polled.1.2), polled.2) := by
  have sameTaken : sequence.taken (List.replicate limit fun _ state => state) =
      sequence.cases.pullSome limit := by
    rw [taken, List.map_replicate, LazySequence.pullSome_eq_handOut]
    rfl
  rw [poll_eq_concluded _ _ unattached, sameTaken, pullUpTo]
  dsimp only [LazySequence.pullUpTo]
  rcases sequence.cases.pullSome limit state with ⟨⟨items, _ | _, cases⟩, reached⟩
  · simp [concluded, unattached]
  · have idle (count : Nat) (state : σ) :
        CaseAsker.onEnd (List.replicate count fun _ state => state) state = state :=
      CaseAsker.onEnd_of_idle (by simp) state
    dsimp only
    rw [if_pos rfl, unattached, finish_unattached]
    simp [concluded, idle]

/-- Deliver a request that is answered. -/
def delivering (deliver : CaseRequest → StateM σ (Except Failure Unit)) : CaseAsker σ
  | some item => LazySequence.delivering deliver item
  | none => id

/-- Forwarding all cases is asking for them and delivering each, if the end is met. -/
theorem forward_eq_poll
    (deliver : CaseRequest → StateM σ (Except Failure Unit))
    (count : Nat)
    (sequence : CaseSequence σ)
    (unattached : sequence.attachment = none)
    (report : Report)
    (state : σ)
    (ended : none ∈ (sequence.poll (List.replicate count (delivering deliver)) state).1.1) :
    let forwarded := sequence.forward deliver report state
    let polled := sequence.poll (List.replicate count (delivering deliver)) state
    forwarded.1.2.2.attachment = polled.1.2.attachment ∧ forwarded.2 = polled.2 := by
  have sameTaken : sequence.taken (List.replicate count (delivering deliver)) =
      sequence.cases.handOut (List.replicate count (LazySequence.delivering deliver)) := by
    rw [taken, List.map_replicate]
    rfl
  have met := sequence.cases.forward_eq_handOut deliver count report state
  rw [poll_eq_concluded _ _ unattached, sameTaken] at ended ⊢
  revert ended met
  rw [forward]
  dsimp only
  rcases sequence.cases.handOut (List.replicate count (LazySequence.delivering deliver)) state with
    ⟨⟨items, _ | _, cases⟩, reached⟩
  · simp [concluded]
  · have idle (count : Nat) (state : σ) :
        CaseAsker.onEnd (List.replicate count (delivering deliver)) state = state :=
      CaseAsker.onEnd_of_idle (by simp [delivering]) state
    rcases sequence.cases.forward deliver report state with ⟨⟨accepted, forwarded⟩, after⟩
    intro _ met
    obtain rfl : after = reached := met rfl
    dsimp only
    rw [unattached, finish_unattached]
    simp [concluded, idle]

end CaseSequence
end CatalogIngest
