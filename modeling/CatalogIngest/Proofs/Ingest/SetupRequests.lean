import CatalogIngest.Proofs.Ingest.SetupGrowth

/-!
# The requests of a setup pass

If the catalog answers every question and gains nothing but requests of the pass, then what the pass
hands out is what is due, given the names that the catalog held at the start. So of each kind the
requests and failures are determined by these names and the nodes, whichever requests are forwarded.
-/

namespace CatalogIngest

variable {σ : Type}

namespace TestSetup

variable {held : HeldNames}

/-! ## Turn by turn -/

/-- After some entries a pass remembers only names that are provided, and all names that they speak
for. -/
structure Remembers (held : HeldNames) (kind : SetupKind) (handled : List (String × ManifestNode))
    (seen : List String) : Prop where
  provided : ∀ name ∈ seen, isProvided held kind name handled = true
  spoken : ∀ entry ∈ handled, ∀ name, (kind.spokenBy name entry).isSome = true → name ∈ seen

section Turn

variable
  {kind : SetupKind}
  {handled : List (String × ManifestNode)}
  {entry : String × ManifestNode}
  {seen seenAfter : List String}

theorem Remembers.concat
    (remembers : Remembers held kind handled seen)
    (subset : seen ⊆ seenAfter)
    (provided : ∀ name ∈ seenAfter, name ∈ seen ∨ held kind name = true ∨
      (kind.spokenBy name entry).isSome = true)
    (spoken : ∀ name, (kind.spokenBy name entry).isSome = true → name ∈ seenAfter) :
    Remembers held kind (handled ++ [entry]) seenAfter where
  provided name member := by
    rw [isProvided_concat, Bool.or_eq_true]
    rcases provided name member with before | isHeld | speaks
    · exact .inl (remembers.provided name before)
    · exact .inl (Bool.or_eq_true _ _ ▸ .inl isHeld)
    · exact .inr speaks
  spoken other member name speaks := by
    rcases List.mem_append.mp member with before | now
    · exact subset (remembers.spoken other before name speaks)
    · rw [List.mem_singleton.mp now] at speaks
      exact spoken name speaks

/-- A name that is neither held nor remembered is not provided. -/
theorem Remembers.not_provided
    (remembers : Remembers held kind handled seen)
    {name : String}
    (fresh : name ∉ seen)
    (notHeld : held kind name = false) :
    isProvided held kind name handled = false := by
  rw [isProvided, notHeld, Bool.false_or, List.any_eq_false]
  exact fun other member speaks => fresh (remembers.spoken other member name speaks)

/-- A turn makes what is due, if the catalog tells of a new name whether it was held. -/
theorem Turn.due
    {asks : List PassEvent}
    {items : Batch}
    (turn : Turn kind entry seen asks items seenAfter)
    (remembers : Remembers held kind handled seen)
    (told : kind.nameFor entry.2 ∉ seen → ∀ answer,
      .asked kind.entity (kind.nameFor entry.2) answer ∈ asks →
        ∃ found, answer = .ok found ∧ found.isSome = held kind (kind.nameFor entry.2)) :
    items = turnDue held kind handled entry ∧
      Remembers held kind (handled ++ [entry]) seenAfter := by
  have named : ∀ {name}, (kind.spokenBy name entry).isSome = true →
      kind.nameFor entry.2 = name ∧ ∃ request, kind.requestFor entry = .ok request := by
    intro name speaks
    obtain ⟨request, spoken⟩ := Option.isSome_iff_exists.mp speaks
    obtain ⟨same, made⟩ := SetupKind.spokenBy_eq_some_iff.mp spoken
    exact ⟨same, request, made⟩
  unfold turnDue
  cases turn with
  | settled known =>
      rw [if_pos (remembers.provided _ known)]
      refine ⟨rfl, remembers.concat (List.Subset.refl _) (fun _ => .inl) fun name speaks => ?_⟩
      exact (named speaks).1 ▸ known
  | refused fresh error =>
      obtain ⟨found, impossible, -⟩ := told fresh _ List.mem_cons_self
      cases impossible
  | existing fresh entity =>
      obtain ⟨found, same, isHeld⟩ := told fresh _ List.mem_cons_self
      cases same
      have provided : isProvided held kind (kind.nameFor entry.2) handled = true := by
        rw [isProvided, ← isHeld]
        rfl
      rw [if_pos provided]
      refine ⟨rfl, remembers.concat (List.subset_cons_self _ _) ?_ fun name speaks => ?_⟩
      · intro name member
        rcases List.mem_cons.mp member with rfl | before
        · exact .inr (.inl isHeld.symm)
        · exact .inl before
      · exact (named speaks).1 ▸ List.mem_cons_self
  | requested fresh request made =>
      obtain ⟨found, same, notHeld⟩ := told fresh _ List.mem_cons_self
      cases same
      rw [if_neg (Bool.eq_false_iff.mp (remembers.not_provided fresh notHeld.symm)), made]
      refine ⟨rfl, remembers.concat (List.subset_cons_self _ _) ?_ fun name speaks => ?_⟩
      · intro name member
        rcases List.mem_cons.mp member with rfl | before
        · rw [SetupKind.spokenBy_eq_some_iff.mpr ⟨rfl, made⟩]
          exact .inr (.inr rfl)
        · exact .inl before
      · exact (named speaks).1 ▸ List.mem_cons_self
  | malformed fresh failure unmade =>
      obtain ⟨found, same, notHeld⟩ := told fresh _ List.mem_cons_self
      cases same
      rw [if_neg (Bool.eq_false_iff.mp (remembers.not_provided fresh notHeld.symm)), unmade]
      refine ⟨rfl, remembers.concat (List.Subset.refl _) (fun _ => .inl) fun name speaks => ?_⟩
      obtain ⟨request, made⟩ := (named speaks).2
      rw [unmade] at made
      cases made

end Turn

/-! ## A whole pass -/

/-- Where a pass over some entries stands, as long as the catalog grows by its requests: the items
handed out and those that wait are what is due for the entries already worked on. -/
def DueStanding (held : HeldNames) (entries : List (String × ManifestNode)) :
    LazySequence.Standing (Observed σ) (String × ManifestNode) SeenNames
      (Except Failure SetupRequest) := fun observed seen ready jobs =>
  GrowsByRequests held observed.events →
    ∃ handled, handled ++ jobs = entries ∧
      observed.events.filterMap PassEvent.item? ++ ready = dueFrom held [] handled ∧
      ∀ kind : SetupKind, Remembers held kind handled (kind.seen seen)

theorem nodeItems_keeps_due
    (context : Context σ)
    (entries : List (String × ManifestNode)) :
    LazySequence.KeptByJobs (DueStanding (σ := σ) held entries) (nodeItems context.observed) := by
  intro observed seen entry jobs standing
  obtain ⟨suiteAsks, definitionAsks, suites, definitions, events, items, suiteTurn,
    definitionTurn⟩ := turns_of_nodeItems context seen entry observed
  intro grows
  rw [events, List.append_assoc] at grows
  obtain ⟨handled, together, sameItems, remembers⟩ := standing grows.of_append
  rw [List.append_nil] at sameItems
  have nothingHandedOut : (suiteAsks ++ definitionAsks).filterMap PassEvent.item? = [] := by
    rw [List.filterMap_append, suiteTurn.asks_hand_nothing_out,
      definitionTurn.asks_hand_nothing_out]
    rfl
  -- Every name requested so far is remembered, so what is asked about a new name tells of the start.
  have told : ∀ (kind : SetupKind) {name : String}, name ∉ kind.seen seen → ∀ answer,
      .asked kind.entity name answer ∈ suiteAsks ++ definitionAsks →
        ∃ found, answer = .ok found ∧ found.isSome = held kind name := by
    intro kind name fresh answer asked
    refine grows.tells nothingHandedOut (fun requested => fresh ?_) asked
    obtain ⟨request, handedOut, rfl, rfl⟩ := mem_emittedNames_iff.mp requested
    rw [sameItems] at handedOut
    obtain ⟨speaker, member, spoken⟩ := of_ok_mem_dueFrom held handedOut
    exact (remembers request.kind).spoken speaker member _ (spoken ▸ rfl)
  obtain ⟨suitesDue, suitesRemembered⟩ := suiteTurn.due (remembers .suite)
    fun fresh answer asked => told .suite fresh answer (List.mem_append_left _ asked)
  obtain ⟨definitionsDue, definitionsRemembered⟩ := definitionTurn.due (remembers .definition)
    fun fresh answer asked => told .definition fresh answer (List.mem_append_right _ asked)
  refine ⟨handled ++ [entry], ?_, ?_, ?_⟩
  · rw [List.append_assoc, List.singleton_append]
    exact together
  · rw [events, items, List.append_assoc, List.filterMap_append, nothingHandedOut, List.append_nil,
      sameItems, dueFrom_concat, suitesDue, definitionsDue]
    rfl
  · intro kind
    cases kind with
    | suite => exact suitesRemembered
    | definition => exact definitionsRemembered

theorem consumer_keeps_due
    (consume : Except Failure SetupRequest → σ → σ)
    (entries : List (String × ManifestNode)) :
    LazySequence.KeptByConsumer (DueStanding (σ := σ) held entries)
      (Observed.consumer consume) := by
  intro observed seen item ready jobs standing grows
  obtain ⟨handled, together, sameItems, remembers⟩ := standing grows.of_append
  refine ⟨handled, together, ?_, remembers⟩
  rw [← sameItems, Observed.consumer, List.filterMap_append, List.append_assoc]
  rfl

/-- A pass that met its end has handed out what is due. -/
theorem items_eq_due
    (context : Context σ)
    (tests : SortedMap ManifestNode)
    (consumers : List (Except Failure SetupRequest → σ → σ))
    (state : σ)
    (grows : GrowsByRequests held (passEvents context tests consumers state))
    (ended : ((setupSequence context tests).handOut consumers state).1.2.1 = true) :
    ((setupSequence context tests).handOut consumers state).1.1 = dueFrom held [] tests.entries := by
  obtain ⟨sameItems, sameEnd, -⟩ :=
    LazySequence.handOut_view Observed.state Observed.consumer (fun _ _ _ => rfl) consumers
      (setupSequence context.observed tests) (setupSequence context tests)
      (nodeItems_view context) rfl rfl rfl ⟨state, []⟩
  have recorded := LazySequence.handOut_records
    (fun observed : Observed σ => observed.events.filterMap PassEvent.item?)
    (consumers.map Observed.consumer)
    (List.forall_mem_map.mpr fun consume _ item observed => List.filterMap_append)
    (setupSequence context.observed tests)
    (nodeItems_hands_nothing_out context) ⟨state, []⟩
  have started : DueStanding held tests.entries (⟨state, []⟩ : Observed σ) ⟨[], []⟩ []
      tests.entries := by
    refine fun _ => ⟨[], rfl, rfl, fun kind => ⟨?_, List.forall_mem_nil _⟩⟩
    cases kind <;> exact List.forall_mem_nil _
  obtain ⟨standing, nothingLeft⟩ :=
    LazySequence.handOut_keeps (consumers.map Observed.consumer)
      (List.forall_mem_map.mpr fun consume _ => consumer_keeps_due consume tests.entries)
      (setupSequence context.observed tests)
      (nodeItems_keeps_due context tests.entries) ⟨state, []⟩ started
  obtain ⟨handled, together, due, -⟩ := standing grows
  obtain ⟨noneReady, nonePending⟩ := nothingLeft (sameEnd.trans ended)
  rw [nonePending, List.append_nil] at together
  rw [noneReady, List.append_nil, together] at due
  exact (recorded.trans sameItems).symm.trans due

/-! ## Of each kind -/

/-- For a name that was not held, the suite of the first node that needs it is due. -/
theorem suites_due
    (held : HeldNames)
    (entries : List (String × ManifestNode))
    (name : String) :
    (SetupRequest.suites (successes (dueFrom held [] entries))).filter (·.name = name) =
      if held .suite name then []
      else (entries.findSome? (SetupKind.suiteFor name)).toList := by
  rw [SetupRequest.suites_filter_eq, ofName_dueFrom, isProvided, List.any_nil, Bool.or_false,
    SetupKind.spokenBy_suite, ← List.map_findSome?]
  split
  · rfl
  · cases entries.findSome? (SetupKind.suiteFor name) <;> rfl

/-- For a name that was not held, the definition of the first node of that name with metadata is
due. -/
theorem definitions_due
    (held : HeldNames)
    (entries : List (String × ManifestNode))
    (name : String) :
    (SetupRequest.definitions (successes (dueFrom held [] entries))).filter (·.name = name) =
      if held .definition name then []
      else (entries.findSome? (SetupKind.definitionFor name)).toList := by
  rw [SetupRequest.definitions_filter_eq, ofName_dueFrom, isProvided, List.any_nil, Bool.or_false,
    SetupKind.spokenBy_definition, ← List.map_findSome?]
  split
  · rfl
  · cases entries.findSome? (SetupKind.definitionFor name) <;> rfl

end TestSetup

/-- The requests and failures of a pass over suites and definitions, for every catalog that answers
all questions and, after the start, gains only what the pass requested: for each suite name that was
not held, the suite of the first node that needs it; for each definition name that was not held, the
definition of the first node of that name with metadata; and a failure for each node without metadata
that comes before these. Enough consumers meet the end of the pass. -/
theorem setup_requests_exact
    (context : Context σ)
    (tests : SortedMap ManifestNode)
    (consumers : List (Except Failure SetupRequest → σ → σ))
    (state : σ)
    (grows : GrowsByRequests (context.holding state)
      (passEvents context tests consumers state)) :
    let held := context.holding state
    let pass := (setupSequence context tests).handOut consumers state
    (2 * tests.size < consumers.length → pass.1.2.1 = true) ∧
      (pass.1.2.1 = true →
        (∀ name, (SetupRequest.suites (successes pass.1.1)).filter (·.name = name) =
          if held .suite name then []
          else (tests.entries.findSome? (SetupKind.suiteFor name)).toList) ∧
        (∀ name, (SetupRequest.definitions (successes pass.1.1)).filter (·.name = name) =
          if held .definition name then []
          else (tests.entries.findSome? (SetupKind.definitionFor name)).toList) ∧
        failuresAmong pass.1.1 =
          (tests.entries.filter fun entry =>
            TestSetup.ComesTooEarly held tests.entries entry).map TestSetup.metadataMissing) := by
  intro held pass
  refine ⟨fun enough => ?_, fun ended => ?_⟩
  · have small : ∀ seen entry state,
        (TestSetup.nodeItems context seen entry state).1.1.length ≤ 2 := by
      intro seen entry state
      rw [← (TestSetup.nodeItems_view context seen entry ⟨state, []⟩).1]
      exact TestSetup.nodeItems_length context seen entry ⟨state, []⟩
    refine LazySequence.handOut_ends consumers (setupSequence context tests) small state ?_
    change 0 + 2 * tests.size < consumers.length
    omega
  · have items : pass.1.1 = TestSetup.dueFrom held [] tests.entries :=
      TestSetup.items_eq_due context tests consumers state grows ended
    rw [items]
    exact ⟨TestSetup.suites_due held tests.entries, TestSetup.definitions_due held tests.entries,
      TestSetup.failures_dueFrom held [] tests.entries tests.increasing⟩

/-- Tests that share names and suites, two of them without metadata. -/
def ManifestNode.sharedTests : SortedMap ManifestNode :=
  let node (name suite description : String) (testMetadata : Option TestMetadata) :
      ManifestNode :=
    { (default : ManifestNode) with
      name := name
      info := .ofList
        [("test_suite_name", .string suite), ("test_suite_description", .string description)]
      testMetadata := testMetadata }
  .ofList
    [("test.a", node "unique" "checks" "from a" none),
      ("test.b", node "unique" "checks" "from b" (some ⟨"unique", none, .empty⟩)),
      ("test.c", node "unique" "core" "from c" (some ⟨"other", none, .empty⟩)),
      ("test.d", node "not_null" "core" "from d" none)]

/-- With one suite and one definition in the catalog, and every other item forwarded, the first node
speaks for the other suite and the second one for the other definition, too late for the first. -/
theorem setup_requests_exact_on_shared :
    let context := Context.inMemory "svc"
    let store := (Store.empty 0).addEach [(.testSuite, "core"), (.testDefinition, "not_null")]
    let consumers :=
      [true, false, true, false, true, false, true, false, true].map Store.setupConsumer
    let pass := (setupSequence context ManifestNode.sharedTests).handOut consumers store
    GrowsByRequests (context.holding store)
        (passEvents context ManifestNode.sharedTests consumers store) ∧
      pass.1.2.1 = true ∧
      (SetupRequest.suites (successes pass.1.1)).filter (·.name = "checks") =
        [⟨"checks", "from a"⟩] ∧
      (SetupRequest.suites (successes pass.1.1)).filter (·.name = "core") = [] ∧
      (SetupRequest.definitions (successes pass.1.1)).filter (·.name = "unique") =
        [⟨"unique", "", .table, [.dbt], [⟨"unique", "unique", false⟩]⟩] ∧
      (SetupRequest.definitions (successes pass.1.1)).filter (·.name = "not_null") = [] ∧
      failuresAmong pass.1.1 =
        [.shape .testSetup "test.a" "test node has no test_metadata"] := by
  intro context store consumers pass
  have grows : GrowsByRequests (context.holding store)
      (passEvents context ManifestNode.sharedTests consumers store) := by
    refine (Store.answersFrom_heldNames "svc").growsByRequests ManifestNode.sharedTests ?_ rfl
    exact List.forall_mem_map.mpr fun forwarded _ => Store.forwardsAtMost_setupConsumer forwarded
  obtain ⟨enough, exactly⟩ :=
    setup_requests_exact context ManifestNode.sharedTests consumers store grows
  have ended : pass.1.2.1 = true := enough (by decide +kernel)
  obtain ⟨suites, definitions, failures⟩ := exactly ended
  refine ⟨grows, ended, ?_, ?_, ?_, ?_, ?_⟩
  · rw [suites]
    decide +kernel
  · rw [suites]
    decide +kernel
  · rw [definitions]
    decide +kernel
  · rw [definitions]
    decide +kernel
  · rw [failures]
    decide +kernel

end CatalogIngest
