import CatalogIngest.Ingest.Sequence

/-!
# Forwarding a sequence

A whole sequence is handed to a receiver that may refuse items. What its jobs and the receiver each
do to the state, a reflexive and transitive relation, is what the whole forwarding does; and every
accepted item comes from a job and was taken at some moment on the way.
-/

namespace CatalogIngest

variable {σ ι μ α : Type}

/-- How states follow each other on the way of a forwarding. -/
structure Following (follows : σ → σ → Prop) : Prop where
  refl : ∀ state, follows state state
  trans : ∀ {first second third}, follows first second → follows second third →
    follows first third

/-- The receiver took an item on the way from one state to another. -/
def TakenBetween (follows : σ → σ → Prop) (deliver : α → StateM σ (Except Failure Unit))
    (first last : σ) (item : α) : Prop :=
  ∃ before, follows first before ∧ (deliver item before).1 = .ok () ∧
    follows (deliver item before).2 last

theorem TakenBetween.widen
    {follows : σ → σ → Prop}
    (following : Following follows)
    {deliver : α → StateM σ (Except Failure Unit)}
    {earlier first last later : σ}
    {item : α}
    (taken : TakenBetween follows deliver first last item)
    (start : follows earlier first)
    (finish : follows last later) :
    TakenBetween follows deliver earlier later item := by
  obtain ⟨before, reached, accepted, left⟩ := taken
  exact ⟨before, following.trans start reached, accepted, following.trans left finish⟩

/-- What forwarding some items does to the state, and where each accepted item comes from. -/
structure Forwarded (follows : σ → σ → Prop) (deliver : α → StateM σ (Except Failure Unit))
    (origin : α → Prop) (first : σ) (result : (List α × Report) × σ) : Prop where
  reached : follows first result.2
  accepted : ∀ item ∈ result.1.1,
    origin item ∧ TakenBetween follows deliver first result.2 item

theorem forwarded_items
    {follows : σ → σ → Prop}
    (following : Following follows)
    {deliver : α → StateM σ (Except Failure Unit)}
    (delivers : ∀ item state, follows state (deliver item state).2)
    (items : List (Except Failure α))
    (report : Report)
    (state : σ) :
    Forwarded follows deliver (fun item => .ok item ∈ items) state
      (forwardItems deliver items report state) := by
  induction items generalizing report state with
  | nil => exact ⟨following.refl state, List.forall_mem_nil _⟩
  | cons first later inductionHypothesis =>
      cases first with
      | error failure =>
          obtain ⟨followed, accepted⟩ := inductionHypothesis (report.record failure) state
          refine ⟨followed, fun item member => ?_⟩
          exact ⟨List.mem_cons_of_mem _ (accepted item member).1, (accepted item member).2⟩
      | ok item =>
          have delivered := delivers item state
          rw [forwardItems]
          dsimp only
          rcases answer : deliver item state with ⟨failure | _, after⟩
          · rw [answer] at delivered
            obtain ⟨followed, accepted⟩ := inductionHypothesis (report.record failure) after
            refine ⟨following.trans delivered followed, fun other member => ?_⟩
            obtain ⟨origin, taken⟩ := accepted other member
            exact ⟨List.mem_cons_of_mem _ origin,
              taken.widen following delivered (following.refl _)⟩
          · rw [answer] at delivered
            obtain ⟨followed, accepted⟩ := inductionHypothesis report after
            refine ⟨following.trans delivered followed, fun other member => ?_⟩
            rcases List.mem_cons.mp member with rfl | member
            · refine ⟨List.mem_cons_self, state, following.refl state, ?_, ?_⟩
              · rw [answer]
              · rw [answer]
                exact followed
            · obtain ⟨origin, taken⟩ := accepted other member
              exact ⟨List.mem_cons_of_mem _ origin,
                taken.widen following delivered (following.refl _)⟩

/-- An item is made by one of some jobs at some state. -/
def MadeBy (work : μ → ι → StateM σ (List (Except Failure α) × μ)) (jobs : List ι) (item : α) :
    Prop :=
  ∃ job ∈ jobs, ∃ memory state, .ok item ∈ (work memory job state).1.1

theorem forwarded_jobs
    {follows : σ → σ → Prop}
    (following : Following follows)
    {deliver : α → StateM σ (Except Failure Unit)}
    (delivers : ∀ item state, follows state (deliver item state).2)
    {work : μ → ι → StateM σ (List (Except Failure α) × μ)}
    (works : ∀ memory job state, follows state (work memory job state).2)
    (jobs : List ι)
    (memory : μ)
    (report : Report)
    (state : σ) :
    Forwarded follows deliver (MadeBy work jobs) state
      (forwardJobs deliver work memory jobs report state) := by
  induction jobs generalizing memory report state with
  | nil => exact ⟨following.refl state, List.forall_mem_nil _⟩
  | cons job jobs inductionHypothesis =>
      have worked := works memory job state
      have given := forwarded_items following delivers (work memory job state).1.1 report
        (work memory job state).2
      have rest := inductionHypothesis (work memory job state).1.2
        (forwardItems deliver (work memory job state).1.1 report (work memory job state).2).1.2
        (forwardItems deliver (work memory job state).1.1 report (work memory job state).2).2
      refine ⟨following.trans worked (following.trans given.reached rest.reached), ?_⟩
      intro item member
      rcases List.mem_append.mp member with member | member
      · obtain ⟨origin, taken⟩ := given.accepted item member
        exact ⟨⟨job, List.mem_cons_self, memory, state, origin⟩,
          taken.widen following worked rest.reached⟩
      · obtain ⟨⟨other, otherMember, origin⟩, taken⟩ := rest.accepted item member
        exact ⟨⟨other, List.mem_cons_of_mem _ otherMember, origin⟩,
          taken.widen following (following.trans worked given.reached) (following.refl _)⟩

/-- Forwarding a sequence that nothing was taken of yet. -/
theorem LazySequence.forwarded_ofJobs
    {follows : σ → σ → Prop}
    (following : Following follows)
    {deliver : α → StateM σ (Except Failure Unit)}
    (delivers : ∀ item state, follows state (deliver item state).2)
    {work : μ → ι → StateM σ (List (Except Failure α) × μ)}
    (works : ∀ memory job state, follows state (work memory job state).2)
    (memory : μ)
    (jobs : List ι)
    (report : Report)
    (state : σ) :
    Forwarded follows deliver (MadeBy work jobs) state
      ((LazySequence.ofJobs work memory jobs).forward deliver report state) :=
  forwarded_jobs following delivers works jobs memory report state

end CatalogIngest
