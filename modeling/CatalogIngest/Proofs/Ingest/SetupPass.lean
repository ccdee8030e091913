import CatalogIngest.Proofs.Ingest.SetupTurn

/-!
# A pass over suites and definitions

While a pass goes on, its consumer may do anything to the catalog. What is shown holds for every
catalog, also for one that changes its mind or never reflects a request: a name is requested at most
once, it is not looked up again once it was requested or found, and every test node gets its suite
and its definition or a failure.
-/

namespace CatalogIngest

/-- The names of a kind that are requested, in order. -/
def emittedNames (kind : SetupKind) (events : List PassEvent) : List String :=
  events.filterMap (PassEvent.emits? kind)

/-- No name of a kind is looked up after it was requested or found. -/
def AsksOnlyUnsettled (kind : SetupKind) (events : List PassEvent) : Prop :=
  events.Pairwise fun earlier later =>
    ∀ name, earlier.Settles kind name → later.asks? kind ≠ some name

/-- A failure says why a node did not get what it needs of a kind: the catalog answered its question
with an error, or the node can make no request. -/
def Excuses (kind : SetupKind) (entry : String × ManifestNode) (events : List PassEvent)
    (failure : Failure) : Prop :=
  (∃ error, .asked kind.entity (kind.nameFor entry.2) (.error error) ∈ events ∧
      failure = .external .testSetup entry.1 error.message) ∨
    kind.requestFor entry = .error failure

/-- What a node needs of a kind was requested or found, or a failure with its key was handed out for
it. -/
def Covered (kind : SetupKind) (entry : String × ManifestNode) (events : List PassEvent) : Prop :=
  (∃ event ∈ events, event.Settles kind (kind.nameFor entry.2)) ∨
    ∃ failure, .yielded (.error failure) ∈ events ∧ failure.subject = entry.1 ∧
      Excuses kind entry events failure

theorem Covered.mono
    {kind : SetupKind}
    {entry : String × ManifestNode}
    {events more : List PassEvent}
    (covered : Covered kind entry events)
    (within : events ⊆ more) :
    Covered kind entry more := by
  rcases covered with ⟨event, member, settles⟩ | ⟨failure, member, subject, excuses⟩
  · exact .inl ⟨event, within member, settles⟩
  · refine .inr ⟨failure, within member, subject, ?_⟩
    rcases excuses with ⟨error, asked, shape⟩ | refused
    · exact .inl ⟨error, within asked, shape⟩
    · exact .inr refused

namespace TestSetup

variable {σ : Type}

/-! ## What holds throughout -/

/-- The names that a pass remembers of a kind are those requested or found; none was requested twice
and none was looked up after it was settled. -/
structure Consistent (kind : SetupKind) (seen : List String) (events : List PassEvent) :
    Prop where
  known : ∀ name, name ∈ seen ↔ ∃ event ∈ events, event.Settles kind name
  once : (emittedNames kind events).Nodup
  unsettled : AsksOnlyUnsettled kind events

theorem consistent_nil
    (kind : SetupKind) :
    Consistent kind [] [] := by
  refine ⟨?_, List.nodup_nil, List.Pairwise.nil⟩
  intro name
  simp

/-- Consistency is kept by an event that neither asks for nor requests a settled name, provided that
what it settles is remembered. -/
theorem Consistent.append_event
    {kind : SetupKind}
    {seen seenAfter : List String}
    {events : List PassEvent}
    (consistent : Consistent kind seen events)
    (event : PassEvent)
    (asksFresh : ∀ name, event.asks? kind = some name → name ∉ seen)
    (emitsFresh : ∀ name, event.emits? kind = some name → name ∉ seen)
    (remembered : ∀ name, name ∈ seenAfter ↔ name ∈ seen ∨ event.Settles kind name) :
    Consistent kind seenAfter (events ++ [event]) := by
  have settledBefore : ∀ earlier ∈ events, ∀ name, earlier.Settles kind name → name ∈ seen :=
    fun earlier member name settles => (consistent.known name).mpr ⟨earlier, member, settles⟩
  refine ⟨?_, ?_, ?_⟩
  · intro name
    rw [remembered, consistent.known]
    simp only [List.mem_append, List.mem_singleton, or_and_right, exists_or, exists_eq_left]
  · unfold emittedNames
    rw [List.filterMap_append, List.nodup_append]
    refine ⟨consistent.once, ?_, ?_⟩
    · cases emits : event.emits? kind <;> simp [emits]
    · intro old oldMember new newMember same
      obtain ⟨earlier, member, emits⟩ := List.mem_filterMap.mp oldMember
      obtain ⟨last, lastMember, emitsLast⟩ := List.mem_filterMap.mp newMember
      rw [List.mem_singleton.mp lastMember] at emitsLast
      exact emitsFresh new emitsLast (settledBefore earlier member new (.inl (same ▸ emits)))
  · refine List.pairwise_append.mpr ⟨consistent.unsettled, List.pairwise_singleton _ _, ?_⟩
    intro earlier member last lastMember name settles asks
    rw [List.mem_singleton.mp lastMember] at asks
    exact asksFresh name asks (settledBefore earlier member name settles)

theorem Consistent.append_silent
    {kind : SetupKind}
    {seen : List String}
    {events quiet : List PassEvent}
    (consistent : Consistent kind seen events)
    (silent : ∀ event ∈ quiet, event.Silent kind) :
    Consistent kind seen (events ++ quiet) := by
  induction quiet generalizing events with
  | nil =>
      rw [List.append_nil]
      exact consistent
  | cons event quiet inductionHypothesis =>
      have eventSilent := silent event List.mem_cons_self
      have appended : Consistent kind seen (events ++ [event]) := by
        refine consistent.append_event event ?_ ?_ ?_
        · simp [eventSilent.asks]
        · simp [eventSilent.emits]
        · simp [PassEvent.Settles, eventSilent.emits, eventSilent.finds]
      have rest := inductionHypothesis appended
        (fun later member => silent later (List.mem_cons_of_mem _ member))
      rw [List.append_assoc, List.singleton_append] at rest
      exact rest

theorem Consistent.append_asked
    {kind : SetupKind}
    {seen : List String}
    {events : List PassEvent}
    {name : String}
    (consistent : Consistent kind seen events)
    (fresh : name ∉ seen)
    {answer : Except CatalogError (Option Entity)}
    (missing : (PassEvent.asked kind.entity name answer).finds? kind = none) :
    Consistent kind seen (events ++ [.asked kind.entity name answer]) := by
  refine consistent.append_event _ ?_ ?_ ?_
  · intro asked asks
    rw [PassEvent.asks?, if_pos rfl] at asks
    cases asks
    exact fresh
  · intro emitted emits
    nomatch emits
  · intro other
    simp [PassEvent.Settles, missing, PassEvent.emits?]

theorem Consistent.append_found
    {kind : SetupKind}
    {seen : List String}
    {events : List PassEvent}
    {name : String}
    (consistent : Consistent kind seen events)
    (fresh : name ∉ seen)
    (entity : Entity) :
    Consistent kind (name :: seen) (events ++ [.asked kind.entity name (.ok (some entity))]) := by
  refine consistent.append_event _ ?_ ?_ ?_
  · intro asked asks
    rw [PassEvent.asks?, if_pos rfl] at asks
    cases asks
    exact fresh
  · intro emitted emits
    nomatch emits
  · intro other
    simp [PassEvent.Settles, PassEvent.finds?, PassEvent.emits?, or_comm, eq_comm]

theorem Consistent.append_requested
    {kind : SetupKind}
    {seen : List String}
    {events : List PassEvent}
    {request : SetupRequest}
    (consistent : Consistent kind seen events)
    (sameKind : request.kind = kind)
    (fresh : request.name ∉ seen) :
    Consistent kind (request.name :: seen) (events ++ [.yielded (.ok request)]) := by
  have emits : (PassEvent.yielded (.ok request)).emits? kind = some request.name :=
    if_pos sameKind
  refine consistent.append_event _ ?_ ?_ ?_
  · intro asked asks
    nomatch asks
  · intro emitted emittedHere
    rw [emits] at emittedHere
    cases emittedHere
    exact fresh
  · intro other
    simp [PassEvent.Settles, PassEvent.finds?, emits, or_comm, eq_comm]

/-- A turn keeps what a pass remembers of its kind consistent, whatever silent events stand before,
between and after its questions and its items. -/
theorem Turn.consistent
    {kind : SetupKind}
    {entry : String × ManifestNode}
    {seen seenAfter : List String}
    {asks events before between after : List PassEvent}
    {items : Batch}
    (turn : Turn kind entry seen asks items seenAfter)
    (consistent : Consistent kind seen events)
    (silentBefore : ∀ event ∈ before, event.Silent kind)
    (silentBetween : ∀ event ∈ between, event.Silent kind)
    (silentAfter : ∀ event ∈ after, event.Silent kind) :
    Consistent kind seenAfter
      (events ++ before ++ asks ++ between ++ items.map .yielded ++ after) := by
  refine Consistent.append_silent ?_ silentAfter
  have started := consistent.append_silent silentBefore
  have silentFailure : ∀ failure, ∀ event ∈ [PassEvent.yielded (.error failure)],
      event.Silent kind := by
    intro failure event member
    cases List.mem_singleton.mp member
    exact ⟨rfl, rfl, rfl⟩
  cases turn with
  | settled known =>
      rw [List.append_nil, List.map_nil, List.append_nil]
      exact started.append_silent silentBetween
  | refused fresh error =>
      exact ((started.append_asked fresh rfl).append_silent silentBetween).append_silent
        (silentFailure _)
  | existing fresh entity =>
      rw [List.map_nil, List.append_nil]
      exact (started.append_found fresh entity).append_silent silentBetween
  | requested fresh request made =>
      obtain ⟨sameKind, sameName⟩ := SetupKind.requestFor_ok made
      have missing : (PassEvent.asked kind.entity (kind.nameFor entry.2) (.ok none)).finds? kind =
          none := rfl
      have asked := (started.append_asked fresh missing).append_silent silentBetween
      rw [← sameName] at fresh asked ⊢
      exact asked.append_requested sameKind fresh
  | malformed fresh failure unmade =>
      exact ((started.append_asked fresh rfl).append_silent silentBetween).append_silent
        (silentFailure _)

/-- After its turn a node is covered. -/
theorem Turn.covered
    {kind : SetupKind}
    {entry : String × ManifestNode}
    {seen seenAfter : List String}
    {asks events : List PassEvent}
    {items : Batch}
    (turn : Turn kind entry seen asks items seenAfter)
    (consistent : Consistent kind seen events) :
    Covered kind entry (events ++ asks ++ items.map .yielded) := by
  cases turn with
  | settled known =>
      obtain ⟨event, member, settles⟩ := (consistent.known _).mp known
      refine .inl ⟨event, ?_, settles⟩
      simp [member]
  | refused fresh error =>
      exact .inr ⟨_, by simp, rfl, .inl ⟨error, by simp, rfl⟩⟩
  | existing fresh entity =>
      exact .inl ⟨.asked kind.entity (kind.nameFor entry.2) (.ok (some entity)), by simp,
        .inr (if_pos rfl)⟩
  | requested fresh request made =>
      obtain ⟨sameKind, sameName⟩ := SetupKind.requestFor_ok made
      refine .inl ⟨.yielded (.ok request), by simp, .inl ?_⟩
      rw [← sameName]
      exact if_pos sameKind
  | malformed fresh failure unmade =>
      exact .inr ⟨failure, by simp, SetupKind.subject_of_requestFor_error unmade, .inr unmade⟩

/-! ## A whole pass -/

/-- Where a pass over some entries stands, counting the items that wait as handed out: what it
remembers is consistent, and the entries already worked on are covered. -/
def PassStanding (entries : List (String × ManifestNode)) :
    LazySequence.Standing (Observed σ) (String × ManifestNode) SeenNames
      (Except Failure SetupRequest) := fun observed seen ready jobs =>
  (∀ kind : SetupKind,
      Consistent kind (kind.seen seen) (observed.events ++ ready.map .yielded)) ∧
    ∃ handled, handled ++ jobs = entries ∧
      ∀ entry ∈ handled, ∀ kind, Covered kind entry (observed.events ++ ready.map .yielded)

/-- The two turns of a node, with what is asked in them. -/
theorem turns_of_nodeItems
    (context : Context σ)
    (seen : SeenNames)
    (entry : String × ManifestNode)
    (observed : Observed σ) :
    ∃ suiteAsks definitionAsks suites definitions,
      let result := nodeItems context.observed seen entry observed
      result.2.events = observed.events ++ suiteAsks ++ definitionAsks ∧
        result.1.1 = suites ++ definitions ∧
          Turn .suite entry seen.suites suiteAsks suites result.1.2.suites ∧
            Turn .definition entry seen.definitions definitionAsks definitions
              result.1.2.definitions := by
  obtain ⟨suiteAsks, suiteEvents, suiteTurn⟩ :=
    turn_of_turnItems context .suite entry seen.suites observed
  rw [nodeItems_eq_turns]
  revert suiteEvents suiteTurn
  dsimp only
  rcases turnItems context.observed .suite entry seen.suites observed with
    ⟨⟨suites, seenSuites⟩, between⟩
  intro suiteEvents suiteTurn
  obtain ⟨definitionAsks, definitionEvents, definitionTurn⟩ :=
    turn_of_turnItems context .definition entry seen.definitions between
  refine ⟨suiteAsks, definitionAsks, suites, _, ?_, rfl, suiteTurn, definitionTurn⟩
  rw [definitionEvents, suiteEvents]

theorem nodeItems_keeps
    (context : Context σ)
    (entries : List (String × ManifestNode)) :
    LazySequence.KeptByJobs (PassStanding (σ := σ) entries) (nodeItems context.observed) := by
  intro observed seen entry jobs standing
  obtain ⟨consistent, handled, together, covered⟩ := standing
  obtain ⟨suiteAsks, definitionAsks, suites, definitions, events, items, suiteTurn,
    definitionTurn⟩ := turns_of_nodeItems context seen entry observed
  rw [List.map_nil, List.append_nil] at consistent covered
  have suiteSilent : ∀ event, event ∈ suiteAsks ∨ event ∈ suites.map .yielded →
      event.Silent .definition :=
    fun _ => suiteTurn.silent (by decide)
  have definitionSilent : ∀ event, event ∈ definitionAsks ∨ event ∈ definitions.map .yielded →
      event.Silent .suite :=
    fun _ => definitionTurn.silent (by decide)
  -- The suite's items are handed out only after the definition was asked for, so each turn is read
  -- with the silent events of the other one in between.
  rw [PassStanding, events, items, List.map_append, ← List.append_assoc]
  refine ⟨?_, handled ++ [entry], ?_, ?_⟩
  · intro kind
    cases kind with
    | suite =>
        have kept := suiteTurn.consistent (consistent .suite) (List.forall_mem_nil _)
          (fun event member => definitionSilent event (.inl member))
          (fun event member => definitionSilent event (.inr member))
        rw [List.append_nil] at kept
        exact kept
    | definition =>
        have kept := definitionTurn.consistent (consistent .definition)
          (fun event member => suiteSilent event (.inl member))
          (fun event member => suiteSilent event (.inr member))
          (List.forall_mem_nil _)
        rw [List.append_nil] at kept
        exact kept
  · rw [List.append_assoc, List.singleton_append]
    exact together
  · intro covering member kind
    rcases List.mem_append.mp member with before | now
    · refine (covered covering before kind).mono ?_
      intro event known
      simp only [List.mem_append]
      grind
    · cases List.mem_singleton.mp now
      cases kind with
      | suite =>
          refine (suiteTurn.covered (consistent .suite)).mono ?_
          intro event known
          simp only [List.mem_append] at known ⊢
          grind
      | definition =>
          refine (definitionTurn.covered (consistent .definition)).mono ?_
          intro event known
          simp only [List.mem_append] at known ⊢
          grind

theorem consumer_keeps
    (consume : Except Failure SetupRequest → σ → σ)
    (entries : List (String × ManifestNode)) :
    LazySequence.KeptByConsumer (PassStanding (σ := σ) entries) (Observed.consumer consume) := by
  intro observed seen item ready jobs standing
  unfold PassStanding at standing ⊢
  rw [List.map_cons, List.append_cons] at standing
  exact standing

theorem nodeItems_length
    (context : Context σ)
    (seen : SeenNames)
    (entry : String × ManifestNode)
    (observed : Observed σ) :
    (nodeItems context.observed seen entry observed).1.1.length ≤ 2 := by
  obtain ⟨_, _, suites, definitions, -, items, suiteTurn, definitionTurn⟩ :=
    turns_of_nodeItems context seen entry observed
  rw [items, List.length_append]
  exact Nat.add_le_add suiteTurn.length_le_one definitionTurn.length_le_one

/-- A node only asks; what is handed out is written down when it is. -/
theorem nodeItems_hands_nothing_out
    (context : Context σ)
    (seen : SeenNames)
    (entry : String × ManifestNode)
    (observed : Observed σ) :
    (nodeItems context.observed seen entry observed).2.events.filterMap PassEvent.item? =
      observed.events.filterMap PassEvent.item? := by
  obtain ⟨suiteAsks, definitionAsks, suites, definitions, events, -, suiteTurn, definitionTurn⟩ :=
    turns_of_nodeItems context seen entry observed
  rw [events, List.filterMap_append, List.filterMap_append, suiteTurn.asks_hand_nothing_out,
    definitionTurn.asks_hand_nothing_out, List.append_nil, List.append_nil]

end TestSetup

/-- A pass over suites and definitions, for every catalog and whatever its consumers do to the
catalog between items. Writing down look-ups and items as they happen changes neither the items nor
what becomes of the catalog, and enough consumers meet the end of the pass. Of suites as of
definitions, no name is requested twice, no name is looked up after it was requested or found, and a
pass that met its end has every test node covered. -/
theorem setup_requests_at_most_once
    {σ : Type}
    (context : Context σ)
    (tests : SortedMap ManifestNode)
    (consumers : List (Except Failure SetupRequest → σ → σ))
    (state : σ) :
    let pass := (setupSequence context tests).handOut consumers state
    let watched := ((setupSequence context.observed tests).handOut
      (consumers.map Observed.consumer) ⟨state, []⟩).2
    watched.state = pass.2 ∧
      watched.events.filterMap PassEvent.item? = pass.1.1 ∧
      (2 * tests.size < consumers.length → pass.1.2.1 = true) ∧
      ∀ kind : SetupKind,
        (emittedNames kind watched.events).Nodup ∧
          AsksOnlyUnsettled kind watched.events ∧
          (pass.1.2.1 = true → ∀ entry ∈ tests.entries, Covered kind entry watched.events) := by
  intro pass watched
  obtain ⟨sameItems, sameEnd, sameState⟩ :=
    LazySequence.handOut_view Observed.state Observed.consumer (fun _ _ _ => rfl) consumers
      (setupSequence context.observed tests) (setupSequence context tests)
      (TestSetup.nodeItems_view context) rfl rfl rfl ⟨state, []⟩
  refine ⟨sameState, ?_, ?_, ?_⟩
  · have recorded := LazySequence.handOut_records
      (fun observed : Observed σ => observed.events.filterMap PassEvent.item?)
      (consumers.map Observed.consumer)
      (List.forall_mem_map.mpr fun consume _ item observed => List.filterMap_append)
      (setupSequence context.observed tests)
      (TestSetup.nodeItems_hands_nothing_out context) ⟨state, []⟩
    exact recorded.trans sameItems
  · intro enough
    refine sameEnd.symm.trans (LazySequence.handOut_ends _ _
      (TestSetup.nodeItems_length context) _ ?_)
    rw [List.length_map]
    change 0 + 2 * tests.size < consumers.length
    omega
  · have started : TestSetup.PassStanding tests.entries (⟨state, []⟩ : Observed σ) ⟨[], []⟩ []
        tests.entries := by
      refine ⟨?_, [], rfl, List.forall_mem_nil _⟩
      intro kind
      cases kind <;> exact TestSetup.consistent_nil _
    obtain ⟨⟨consistent, handled, together, covered⟩, nothingLeft⟩ :=
      LazySequence.handOut_keeps (consumers.map Observed.consumer)
        (List.forall_mem_map.mpr fun consume _ => TestSetup.consumer_keeps consume tests.entries)
        (setupSequence context.observed tests)
        (TestSetup.nodeItems_keeps context tests.entries) ⟨state, []⟩ started
    intro kind
    refine ⟨?_, (List.pairwise_append.mp (consistent kind).unsettled).1, ?_⟩
    · have distinct := (consistent kind).once
      unfold emittedNames at distinct
      rw [List.filterMap_append] at distinct
      exact (List.nodup_append.mp distinct).1
    · intro ended entry member
      obtain ⟨noneReady, nonePending⟩ := nothingLeft (sameEnd.trans ended)
      rw [nonePending, List.append_nil] at together
      rw [noneReady, List.map_nil, List.append_nil] at covered
      exact covered entry (together ▸ member) kind

end CatalogIngest
