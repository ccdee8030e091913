import CatalogIngest.Proofs.Ingest.SetupDue
import CatalogIngest.Proofs.Ingest.SetupNames
import CatalogIngest.Proofs.Ingest.SetupPass

/-!
# Catalogs that grow by requests

During a pass over suites and definitions a caller may forward some of its requests to the catalog
and leave others. What the pass can see of that are the answers to its questions. The in-memory
catalog without faults shows that it gains nothing but requests, whichever of them are forwarded.
-/

namespace CatalogIngest

variable {σ : Type}

/-- The names that a catalog says it holds in a state. -/
def Context.holding (context : Context σ) (state : σ) : HeldNames := fun kind name =>
  match (context.client.lookup kind.entity name state).1 with
  | .ok found => found.isSome
  | .error _ => false

/-- What happens in a pass, given the consumers of its items. -/
def passEvents (context : Context σ) (tests : SortedMap ManifestNode)
    (consumers : List (Except Failure SetupRequest → σ → σ)) (state : σ) : List PassEvent :=
  ((setupSequence context.observed tests).handOut (consumers.map Observed.consumer)
    ⟨state, []⟩).2.events

/-- As far as the questions of a pass show, the catalog answers always, keeps the names that it held
at the start, and holds no others but those that the pass requested before. -/
structure GrowsByRequests (held : HeldNames) (events : List PassEvent) : Prop where
  answered : ∀ kind name error, .asked kind name (.error error) ∉ events
  kept : ∀ kind : SetupKind, ∀ name, held kind name = true →
    .asked kind.entity name (.ok none) ∉ events
  gained : ∀ kind : SetupKind, ∀ name entity before after,
    events = before ++ .asked kind.entity name (.ok (some entity)) :: after →
      held kind name = true ∨ name ∈ emittedNames kind before

theorem mem_emittedNames_iff
    {kind : SetupKind}
    {name : String}
    {events : List PassEvent} :
    name ∈ emittedNames kind events ↔
      ∃ request, .ok request ∈ events.filterMap PassEvent.item? ∧ request.kind = kind ∧
        request.name = name := by
  unfold emittedNames
  simp only [List.mem_filterMap]
  constructor
  · rintro ⟨asked | ⟨failure | request⟩, member, emits⟩
    · nomatch emits
    · nomatch emits
    · obtain ⟨sameKind, sameName⟩ := Option.ite_none_right_eq_some.mp emits
      exact ⟨request, ⟨_, member, rfl⟩, sameKind, Option.some.inj sameName⟩
  · rintro ⟨request, ⟨asked | item, member, same⟩, sameKind, sameName⟩
    · nomatch same
    · cases same
      exact ⟨_, member, (if_pos sameKind).trans (congrArg some sameName)⟩

namespace GrowsByRequests

variable {held : HeldNames} {events : List PassEvent}

theorem nil : GrowsByRequests held [] where
  answered _ _ _ := List.not_mem_nil
  kept _ _ _ := List.not_mem_nil
  gained _ _ _ before _ same := absurd same.symm (by simp)

theorem of_append
    {more : List PassEvent}
    (grows : GrowsByRequests held (events ++ more)) :
    GrowsByRequests held events where
  answered kind name error member :=
    grows.answered kind name error (List.mem_append_left _ member)
  kept kind name isHeld member := grows.kept kind name isHeld (List.mem_append_left _ member)
  gained kind name entity before after same := by
    refine grows.gained kind name entity before (after ++ more) ?_
    rw [same, List.append_assoc, List.cons_append]

/-- Growth by requests is kept by an event that is no wrong answer. -/
theorem append_event
    (grows : GrowsByRequests held events)
    (event : PassEvent)
    (answered : ∀ kind name error, event ≠ .asked kind name (.error error))
    (kept : ∀ kind : SetupKind, ∀ name, held kind name = true →
      event ≠ .asked kind.entity name (.ok none))
    (gained : ∀ kind : SetupKind, ∀ name entity,
      event = .asked kind.entity name (.ok (some entity)) →
        held kind name = true ∨ name ∈ emittedNames kind events) :
    GrowsByRequests held (events ++ [event]) where
  answered kind name error member := by
    rcases List.mem_append.mp member with before | now
    · exact grows.answered kind name error before
    · exact answered kind name error (List.mem_singleton.mp now).symm
  kept kind name isHeld member := by
    rcases List.mem_append.mp member with before | now
    · exact grows.kept kind name isHeld before
    · exact kept kind name isHeld (List.mem_singleton.mp now).symm
  gained kind name entity before after same := by
    obtain rfl | ⟨middle, last, rfl⟩ := List.eq_nil_or_concat after
    · obtain ⟨rfl, now⟩ := List.append_inj' same rfl
      exact gained kind name entity (List.singleton_inj.mp now)
    · rw [List.concat_eq_append, ← List.cons_append, ← List.append_assoc] at same
      obtain ⟨rfl, -⟩ := List.append_inj' same rfl
      exact grows.gained kind name entity before middle rfl

theorem append_item
    (grows : GrowsByRequests held events)
    (item : Except Failure SetupRequest) :
    GrowsByRequests held (events ++ [.yielded item]) :=
  grows.append_event _ (fun _ _ _ => nofun) (fun _ _ _ => nofun) (fun _ _ _ => nofun)

theorem append_answer
    (grows : GrowsByRequests held events)
    {kind : SetupKind}
    {name : String}
    {found : Option Entity}
    (kept : held kind name = true → found.isSome = true)
    (gained : found.isSome = true → held kind name = true ∨ name ∈ emittedNames kind events) :
    GrowsByRequests held (events ++ [.asked kind.entity name (.ok found)]) := by
  refine grows.append_event _ (fun _ _ _ => nofun) ?_ ?_
  · intro otherKind other isHeld same
    obtain ⟨sameKind, rfl, answer⟩ := PassEvent.asked.inj same
    cases SetupKind.entity_injective sameKind
    cases Except.ok.inj answer
    nomatch kept isHeld
  · intro otherKind other entity same
    obtain ⟨sameKind, rfl, answer⟩ := PassEvent.asked.inj same
    cases SetupKind.entity_injective sameKind
    cases Except.ok.inj answer
    exact gained rfl

/-- Asked about a name that was not requested, the catalog tells whether it held it at the start. -/
theorem tells
    {asks : List PassEvent}
    (grows : GrowsByRequests held (events ++ asks))
    (nothingHandedOut : asks.filterMap PassEvent.item? = [])
    {kind : SetupKind}
    {name : String}
    (unrequested : name ∉ emittedNames kind events)
    {answer : Except CatalogError (Option Entity)}
    (asked : .asked kind.entity name answer ∈ asks) :
    ∃ found, answer = .ok found ∧ found.isSome = held kind name := by
  have member := List.mem_append_right events asked
  rcases answer with error | (_ | entity)
  · exact absurd member (grows.answered _ _ _)
  · refine ⟨none, rfl, (Bool.eq_false_iff.mpr fun isHeld => ?_).symm⟩
    exact grows.kept kind name isHeld member
  · refine ⟨some entity, rfl, Eq.symm ?_⟩
    obtain ⟨front, back, rfl⟩ := List.append_of_mem asked
    have gained := grows.gained kind name entity (events ++ front) back
      (List.append_assoc _ _ _).symm
    refine gained.resolve_right fun requested => unrequested ?_
    obtain ⟨request, handedOut, isFor⟩ := mem_emittedNames_iff.mp requested
    rw [List.filterMap_append, List.append_eq_nil_iff] at nothingHandedOut
    rw [List.filterMap_append, nothingHandedOut.1, List.append_nil] at handedOut
    exact mem_emittedNames_iff.mpr ⟨request, handedOut, isFor⟩

end GrowsByRequests

/-! ## Forwarding -/

/-- In the states in which a catalog works, it answers every question with what it holds. -/
structure Context.AnswersFrom (context : Context σ) (works : σ → Prop) (holds : σ → HeldNames) :
    Prop where
  answers : ∀ state, works state → ∀ (kind : SetupKind) (name : String), ∃ found,
    (context.client.lookup kind.entity name state).1 = .ok found ∧
      found.isSome = holds state kind name
  leaves : ∀ state, works state → ∀ (kind : SetupKind) (name : String),
    works (context.client.lookup kind.entity name state).2 ∧
      holds (context.client.lookup kind.entity name state).2 = holds state

/-- A consumer takes no name away from a catalog and adds none but that of a request it is handed. -/
structure ForwardsAtMost (works : σ → Prop) (holds : σ → HeldNames)
    (consume : Except Failure SetupRequest → σ → σ) : Prop where
  stillWorks : ∀ item state, works state → works (consume item state)
  keeps : ∀ item state, works state → ∀ kind name, holds state kind name = true →
    holds (consume item state) kind name = true
  gains : ∀ item state, works state → ∀ kind name, holds (consume item state) kind name = true →
    holds state kind name = true ∨
      ∃ request, item = .ok request ∧ request.kind = kind ∧ request.name = name

/-- What happened so far shows a catalog that grew by requests, and so does its state. -/
structure HasGrown (works : σ → Prop) (holds : σ → HeldNames) (held : HeldNames)
    (observed : Observed σ) : Prop where
  working : works observed.state
  grows : GrowsByRequests held observed.events
  kept : ∀ kind name, held kind name = true → holds observed.state kind name = true
  gained : ∀ kind name, holds observed.state kind name = true →
    held kind name = true ∨ name ∈ emittedNames kind observed.events

/-- Throughout a pass the catalog has grown by requests only. -/
def GrownStanding (works : σ → Prop) (holds : σ → HeldNames) (held : HeldNames) :
    LazySequence.Standing (Observed σ) (String × ManifestNode) SeenNames
      (Except Failure SetupRequest) := fun observed _ _ _ =>
  HasGrown works holds held observed

section Forwarding

variable
  {context : Context σ}
  {works : σ → Prop}
  {holds : σ → HeldNames}
  {held : HeldNames}

theorem emittedNames_concat
    (kind : SetupKind)
    (events : List PassEvent)
    (event : PassEvent) :
    emittedNames kind (events ++ [event]) =
      emittedNames kind events ++ (event.emits? kind).toList := by
  rw [emittedNames, List.filterMap_append]
  cases emits : event.emits? kind <;> simp [emittedNames, emits]

theorem HasGrown.lookup
    {observed : Observed σ}
    (grown : HasGrown works holds held observed)
    (answersFrom : context.AnswersFrom works holds)
    (kind : SetupKind)
    (name : String) :
    HasGrown works holds held (context.observed.client.lookup kind.entity name observed).2 := by
  obtain ⟨found, answer, isHeld⟩ := answersFrom.answers observed.state grown.working kind name
  obtain ⟨stillWorks, sameNames⟩ := answersFrom.leaves observed.state grown.working kind name
  dsimp only [Context.observed, Observed.lookup]
  rw [answer]
  refine ⟨stillWorks, grown.grows.append_answer ?_ ?_, ?_, ?_⟩
  · intro before
    rw [isHeld]
    exact grown.kept kind name before
  · intro now
    rw [isHeld] at now
    exact grown.gained kind name now
  · intro otherKind other before
    rw [sameNames]
    exact grown.kept otherKind other before
  · intro otherKind other now
    rw [sameNames] at now
    rw [emittedNames_concat]
    exact (grown.gained otherKind other now).imp_right (List.mem_append_left _)

theorem HasGrown.turnItems
    {observed : Observed σ}
    (grown : HasGrown works holds held observed)
    (answersFrom : context.AnswersFrom works holds)
    (kind : SetupKind)
    (entry : String × ManifestNode)
    (seen : List String) :
    HasGrown works holds held (TestSetup.turnItems context.observed kind entry seen observed).2 := by
  have asked := grown.lookup answersFrom kind (kind.nameFor entry.2)
  rw [TestSetup.turnItems]
  revert asked
  split
  · exact fun _ => grown
  · rcases context.observed.client.lookup kind.entity (kind.nameFor entry.2) observed with
      ⟨error | (_ | entity), after⟩
    · exact id
    · cases kind.requestFor entry <;> exact id
    · exact id

theorem HasGrown.consumer
    {observed : Observed σ}
    (grown : HasGrown works holds held observed)
    {consume : Except Failure SetupRequest → σ → σ}
    (forwards : ForwardsAtMost works holds consume)
    (item : Except Failure SetupRequest) :
    HasGrown works holds held (Observed.consumer consume item observed) where
  working := forwards.stillWorks item observed.state grown.working
  grows := grown.grows.append_item item
  kept kind name before :=
    forwards.keeps item observed.state grown.working kind name (grown.kept kind name before)
  gained kind name now := by
    rw [Observed.consumer, emittedNames_concat]
    rcases forwards.gains item observed.state grown.working kind name now with
      before | ⟨request, rfl, sameKind, sameName⟩
    · exact (grown.gained kind name before).imp_right (List.mem_append_left _)
    · refine .inr (List.mem_append_right _ (Option.mem_toList.mpr ?_))
      exact (if_pos sameKind).trans (congrArg some sameName)

/-- Whatever callers forward, the catalog grows by requests of the pass. -/
theorem Context.AnswersFrom.growsByRequests
    (answersFrom : context.AnswersFrom works holds)
    (tests : SortedMap ManifestNode)
    {consumers : List (Except Failure SetupRequest → σ → σ)}
    (forward : ∀ consume ∈ consumers, ForwardsAtMost works holds consume)
    {state : σ}
    (working : works state) :
    GrowsByRequests (context.holding state) (passEvents context tests consumers state) := by
  have sameNames : context.holding state = holds state := by
    funext kind name
    obtain ⟨found, answer, isHeld⟩ := answersFrom.answers state working kind name
    rw [holding, answer]
    exact isHeld
  rw [sameNames]
  have started : GrownStanding works holds (holds state) ⟨state, []⟩ ⟨[], []⟩ [] tests.entries :=
    ⟨working, .nil, fun _ _ => id, fun _ _ => .inl⟩
  refine HasGrown.grows (LazySequence.handOut_keeps (consumers.map Observed.consumer) ?_
    (setupSequence context.observed tests) ?_ ⟨state, []⟩ started).1
  · refine List.forall_mem_map.mpr fun consume member observed seen item ready jobs grown => ?_
    exact grown.consumer (forward consume member) item
  · intro observed seen entry jobs grown
    have result := TestSetup.nodeItems_eq_turns context.observed seen entry observed
    have afterSuite := grown.turnItems answersFrom .suite entry seen.suites
    have afterDefinition := afterSuite.turnItems answersFrom .definition entry seen.definitions
    dsimp only at result
    change HasGrown works holds (holds state)
      (TestSetup.nodeItems context.observed seen entry observed).2
    rw [result]
    exact afterDefinition

end Forwarding

/-! ## The in-memory catalog -/

namespace Store

/-- The names of suites and definitions in an in-memory catalog. -/
def heldNames (store : Store) : HeldNames := fun kind name => store.contains kind.entity name

/-- The caller that forwards a request, and the one that does not. -/
def setupConsumer (forwarded : Bool) : Except Failure SetupRequest → Store → Store :=
  if forwarded then LazySequence.delivering sink.deliverSetup else fun _ store => store

theorem answersFrom_heldNames (service : String) :
    (Context.inMemory service).AnswersFrom (fun store => store.faults = .empty) heldNames where
  answers store unfaulted kind name := by
    refine ⟨store.entity? kind.entity name, ?_, rfl⟩
    change store.lookup kind.entity name = _
    rw [lookup, unfaulted]
    rfl
  leaves store unfaulted _ _ := ⟨unfaulted, rfl⟩

/-- Only a request that is forwarded and not refused changes the catalog. -/
theorem setupConsumer_cases
    (forwarded : Bool)
    (item : Except Failure SetupRequest)
    (store : Store) :
    setupConsumer forwarded item store = store ∨
      ∃ request, item = .ok request ∧ setupConsumer forwarded item store =
        (store.addEntity request.kind.entity request.name).2 := by
  cases forwarded with
  | false => exact .inl rfl
  | true =>
      cases item with
      | error failure => exact .inl rfl
      | ok request =>
          have delivered : setupConsumer true (.ok request) store =
              (sink.deliverSetup request store).2 := rfl
          rw [delivered, deliverSetup_eq]
          cases request.refusal with
          | some failure => exact .inl rfl
          | none => exact .inr ⟨request, rfl, rfl⟩

theorem forwardsAtMost_setupConsumer (forwarded : Bool) :
    ForwardsAtMost (fun store => store.faults = .empty) heldNames (setupConsumer forwarded) where
  stillWorks item store unfaulted := by
    rcases setupConsumer_cases forwarded item store with same | ⟨request, -, added⟩
    · rw [same]
      exact unfaulted
    · rw [added, faults_addEntity]
      exact unfaulted
  keeps item store _ kind name before := by
    rcases setupConsumer_cases forwarded item store with same | ⟨request, -, added⟩
    · rw [same]
      exact before
    · rw [added]
      exact (contains_addEntity _ _ _ _ _).mpr (.inr before)
  gains item store _ kind name now := by
    rcases setupConsumer_cases forwarded item store with same | ⟨request, isRequest, added⟩
    · rw [same] at now
      exact .inl now
    · rw [added] at now
      rcases (contains_addEntity _ _ _ _ _).mp now with ⟨sameKind, sameName⟩ | before
      · exact .inr ⟨request, isRequest, (SetupKind.entity_injective sameKind).symm, sameName.symm⟩
      · exact .inl before

end Store
end CatalogIngest
