import CatalogIngest.Proofs.Ingest.LineageEdges

/-!
# Setup on the in-memory catalog

With the in-memory catalog, what a setup pass requests depends on the names that the catalog holds
at its start: a name that was requested is not looked up again. Afterwards the catalog holds those
names and the ones requested, except the empty one, which it refuses; so every name that a test node
needs, and for which a request can be made, is there.
-/

namespace CatalogIngest

namespace SetupRequest

/-- The kind and full name of the entity that a request asks for. -/
def entry (request : SetupRequest) : EntityKind × String :=
  (request.kind.entity, request.name)

/-- The failure with which the in-memory catalog refuses a request, if it does: there is no name. -/
def refusal (request : SetupRequest) : Option Failure :=
  if request.name.isEmpty then
    let what := match request.kind with
      | .suite => "test suite name is empty"
      | .definition => "test definition name is empty"
    some (.external .testSetup request.name (CatalogError.message ⟨.invalidRequest, what⟩))
  else none

theorem isNone_refusal (request : SetupRequest) :
    request.refusal.isNone = !request.name.isEmpty := by
  unfold refusal
  cases request.name.isEmpty <;> rfl

end SetupRequest

namespace Store

/-- The in-memory catalog refuses a request without a name and registers all others. -/
theorem deliverSetup_eq
    (request : SetupRequest)
    (store : Store) :
    sink.deliverSetup request store =
      match request.refusal with
      | some failure => (.error failure, store)
      | none => (.ok (), (store.addEntity request.kind.entity request.name).2) := by
  unfold SetupRequest.refusal
  cases request with
  | suite request =>
      change Sink.outcome .testSetup request.name
        (fun current => Store.createSuite current request) store = _
      unfold Sink.outcome Store.createSuite SetupRequest.name SetupRequest.kind
      dsimp only
      cases request.name.isEmpty <;> rfl
  | definition request =>
      change Sink.outcome .testSetup request.name
        (fun current => Store.createDefinition current request) store = _
      unfold Sink.outcome Store.createDefinition SetupRequest.name SetupRequest.kind
      dsimp only
      cases request.name.isEmpty <;> rfl

theorem decides_deliverSetup :
    Decides sink.deliverSetup (fun _ => True) SetupRequest.refusal where
  kept _ _ _ := trivial
  decided request store _ := by
    rw [deliverSetup_eq]
    cases request.refusal <;> rfl

/-- Handing setup items over registers the names of the requests that are accepted. -/
theorem deliverAll_deliverSetup
    (items : List (Except Failure SetupRequest))
    (store : Store) :
    deliverAll sink.deliverSetup items store =
      store.addEach ((acceptedAmong SetupRequest.refusal items).map SetupRequest.entry) := by
  induction items generalizing store with
  | nil => rfl
  | cons item later inductionHypothesis =>
      cases item with
      | error failure => exact inductionHypothesis store
      | ok request =>
          refine (inductionHypothesis (sink.deliverSetup request store).2).trans ?_
          rw [deliverSetup_eq]
          cases refused : request.refusal with
          | none => simp [acceptedAmong, successes, refused, SetupRequest.entry]
          | some failure => simp [acceptedAmong, successes, refused]

end Store

/-! ## One turn -/

namespace TestSetup

/-- What can happen when it is the turn of a node, with the in-memory catalog: which items are made
and which names are seen then. -/
inductive TurnIn (store : Store) (kind : SetupKind) (entry : String × ManifestNode)
    (seen : List String) : Batch → List String → Prop
  | settled (known : kind.nameFor entry.2 ∈ seen) : TurnIn store kind entry seen [] seen
  | faulted (fresh : kind.nameFor entry.2 ∉ seen) {error : CatalogError}
      (fault : store.faults.get? (kind.nameFor entry.2) = some error) :
      TurnIn store kind entry seen [.error (.external .testSetup entry.1 error.message)] seen
  | existing (fresh : kind.nameFor entry.2 ∉ seen)
      (unfaulted : store.faults.get? (kind.nameFor entry.2) = none)
      (present : store.contains kind.entity (kind.nameFor entry.2) = true) :
      TurnIn store kind entry seen [] (kind.nameFor entry.2 :: seen)
  | requested (fresh : kind.nameFor entry.2 ∉ seen)
      (unfaulted : store.faults.get? (kind.nameFor entry.2) = none)
      (absent : store.contains kind.entity (kind.nameFor entry.2) = false)
      {request : SetupRequest} (made : kind.requestFor entry = .ok request) :
      TurnIn store kind entry seen [.ok request] (kind.nameFor entry.2 :: seen)
  | malformed (fresh : kind.nameFor entry.2 ∉ seen)
      (unfaulted : store.faults.get? (kind.nameFor entry.2) = none)
      (absent : store.contains kind.entity (kind.nameFor entry.2) = false)
      {failure : Failure} (unmade : kind.requestFor entry = .error failure) :
      TurnIn store kind entry seen [.error failure] seen

theorem turnItems_inMemory
    (service : String)
    (kind : SetupKind)
    (entry : String × ManifestNode)
    (seen : List String)
    (store : Store) :
    turnItems (Context.inMemory service) kind entry seen store =
      if kind.nameFor entry.2 ∈ seen then (([], seen), store)
      else
        match store.faults.get? (kind.nameFor entry.2) with
        | some error => (([.error (.external .testSetup entry.1 error.message)], seen), store)
        | none =>
            if store.contains kind.entity (kind.nameFor entry.2) then
              (([], kind.nameFor entry.2 :: seen), store)
            else
              match kind.requestFor entry with
              | .error failure => (([.error failure], seen), store)
              | .ok request => (([.ok request], kind.nameFor entry.2 :: seen), store) := by
  have held : store.contains kind.entity (kind.nameFor entry.2) =
      (store.entity? kind.entity (kind.nameFor entry.2)).isSome := rfl
  unfold turnItems
  dsimp only [Context.inMemory, Store.client, Store.lookup]
  rw [held]
  split
  · rfl
  · cases store.faults.get? (kind.nameFor entry.2) with
    | some error => rfl
    | none =>
        dsimp only
        cases store.entity? kind.entity (kind.nameFor entry.2) with
        | none => cases kind.requestFor entry <;> rfl
        | some entity => rfl

theorem turnIn_turnItems
    (service : String)
    (kind : SetupKind)
    (entry : String × ManifestNode)
    (seen : List String)
    (store : Store) :
    let result := turnItems (Context.inMemory service) kind entry seen store
    TurnIn store kind entry seen result.1.1 result.1.2 := by
  intro result
  have same := turnItems_inMemory service kind entry seen store
  change result = _ at same
  rw [same]
  by_cases known : kind.nameFor entry.2 ∈ seen
  · rw [if_pos known]
    exact .settled known
  · rw [if_neg known]
    cases fault : store.faults.get? (kind.nameFor entry.2) with
    | some error => exact .faulted known fault
    | none =>
        cases present : store.contains kind.entity (kind.nameFor entry.2) with
        | true => exact .existing known fault present
        | false =>
            cases made : kind.requestFor entry with
            | error failure => exact .malformed known fault present made
            | ok request => exact .requested known fault present made

namespace TurnIn

variable
  {store : Store}
  {kind : SetupKind}
  {entry : String × ManifestNode}
  {seen seenAfter : List String}
  {items : Batch}

/-- What can happen at a turn does happen. -/
theorem turnItems_eq
    (turn : TurnIn store kind entry seen items seenAfter)
    (service : String) :
    turnItems (Context.inMemory service) kind entry seen store = ((items, seenAfter), store) := by
  rw [turnItems_inMemory]
  cases turn with
  | settled known => rw [if_pos known]
  | faulted fresh fault => rw [if_neg fresh, fault]
  | existing fresh unfaulted present =>
      rw [if_neg fresh, unfaulted]
      exact if_pos present
  | requested fresh unfaulted absent made =>
      rw [if_neg fresh, unfaulted, absent, made]
      rfl
  | malformed fresh unfaulted absent unmade =>
      rw [if_neg fresh, unfaulted, absent, unmade]
      rfl

/-- Names that are seen stay seen. -/
theorem subset
    (turn : TurnIn store kind entry seen items seenAfter) :
    seen ⊆ seenAfter := by
  cases turn with
  | existing => exact List.subset_cons_self _ _
  | requested => exact List.subset_cons_self _ _
  | _ => exact List.Subset.refl seen

/-- What is seen after a turn was seen before, is in the catalog or was requested. -/
theorem seen_cases
    (turn : TurnIn store kind entry seen items seenAfter)
    {name : String}
    (member : name ∈ seenAfter) :
    name ∈ seen ∨ store.contains kind.entity name = true ∨
      ∃ request, .ok request ∈ items ∧ request.entry = (kind.entity, name) := by
  cases turn with
  | existing fresh unfaulted present =>
      rcases List.mem_cons.mp member with rfl | before
      · exact .inr (.inl present)
      · exact .inl before
  | requested fresh unfaulted absent made =>
      rcases List.mem_cons.mp member with rfl | before
      · obtain ⟨sameKind, sameName⟩ := SetupKind.requestFor_ok made
        refine .inr (.inr ⟨_, List.mem_singleton_self _, ?_⟩)
        rw [SetupRequest.entry, sameKind, sameName]
      · exact .inl before
  | _ => exact .inl member

/-- A name without a fault, for which a request can be made, is seen after the turn. -/
theorem mem_seenAfter
    (turn : TurnIn store kind entry seen items seenAfter)
    (unfaulted : store.faults.get? (kind.nameFor entry.2) = none)
    {request : SetupRequest}
    (made : kind.requestFor entry = .ok request) :
    kind.nameFor entry.2 ∈ seenAfter := by
  cases turn with
  | settled known => exact known
  | faulted fresh fault =>
      rw [unfaulted] at fault
      nomatch fault
  | existing => exact List.mem_cons_self
  | requested => exact List.mem_cons_self
  | malformed fresh unfaulted absent unmade =>
      rw [made] at unmade
      nomatch unmade

/-- A request is for a name that the catalog does not hold, made by the node whose turn it is. -/
theorem of_requested
    (turn : TurnIn store kind entry seen items seenAfter)
    {request : SetupRequest}
    (member : .ok request ∈ items) :
    kind.requestFor entry = .ok request ∧ request.kind = kind ∧
      request.name = kind.nameFor entry.2 ∧ request.name ∈ seenAfter ∧
        store.contains kind.entity request.name = false := by
  cases turn with
  | requested fresh unfaulted absent made =>
      cases List.mem_singleton.mp member
      obtain ⟨sameKind, sameName⟩ := SetupKind.requestFor_ok made
      rw [sameName]
      exact ⟨made, sameKind, rfl, List.mem_cons_self, absent⟩
  | faulted => nomatch List.mem_singleton.mp member
  | malformed => nomatch List.mem_singleton.mp member
  | _ => nomatch member

end TurnIn

/-! ## One node -/

section Node

variable
  (service : String)
  (seen : SeenNames)
  (entry : String × ManifestNode)
  (store : Store)

/-- Of either kind, a node takes its turn, and its items are among those of the node. -/
theorem turnIn_nodeItems
    (kind : SetupKind) :
    let result := nodeItems (Context.inMemory service) seen entry store
    ∃ own, TurnIn store kind entry (kind.seen seen) own (kind.seen result.1.2) ∧
      own ⊆ result.1.1 := by
  have suites := turnIn_turnItems service .suite entry seen.suites store
  have definitions := turnIn_turnItems service .definition entry seen.definitions store
  rw [nodeItems_eq_turns, turnItems_leaves]
  cases kind with
  | suite => exact ⟨_, suites, List.subset_append_left _ _⟩
  | definition => exact ⟨_, definitions, List.subset_append_right _ _⟩

/-- Every item of a node is made in one of its two turns. -/
theorem turnIn_of_mem_nodeItems
    {item : Except Failure SetupRequest}
    (member : item ∈ (nodeItems (Context.inMemory service) seen entry store).1.1) :
    ∃ kind : SetupKind, ∃ own,
      TurnIn store kind entry (kind.seen seen) own
          (kind.seen (nodeItems (Context.inMemory service) seen entry store).1.2) ∧
        item ∈ own := by
  have suites := turnIn_turnItems service .suite entry seen.suites store
  have definitions := turnIn_turnItems service .definition entry seen.definitions store
  rw [nodeItems_eq_turns, turnItems_leaves] at member ⊢
  rcases List.mem_append.mp member with inside | inside
  · exact ⟨.suite, _, suites, inside⟩
  · exact ⟨.definition, _, definitions, inside⟩

end Node

/-! ## A whole pass -/

/-- The items of a pass over some nodes on a catalog that stays as it is. -/
def itemsFrom (service : String) (seen : SeenNames) (entries : List (String × ManifestNode))
    (store : Store) : Batch :=
  (LazySequence.runJobs (nodeItems (Context.inMemory service)) seen entries store).1.1

theorem itemsFrom_cons
    (service : String)
    (seen : SeenNames)
    (entry : String × ManifestNode)
    (later : List (String × ManifestNode))
    (store : Store) :
    itemsFrom service seen (entry :: later) store =
      (nodeItems (Context.inMemory service) seen entry store).1.1 ++
        itemsFrom service (nodeItems (Context.inMemory service) seen entry store).1.2 later
          store := by
  unfold itemsFrom
  rw [LazySequence.runJobs_cons _ fun seen entry store => nodeItems_leaves service seen entry store]

/-- A name that a pass has seen stays settled: it was seen before, is in the catalog or is
requested. -/
def Settled (kind : SetupKind) (name : String) (seen : SeenNames) (store : Store)
    (items : Batch) : Prop :=
  name ∈ kind.seen seen ∨ store.contains kind.entity name = true ∨
    ∃ request, .ok request ∈ items ∧ request.entry = (kind.entity, name)

/-- Each node whose name has no fault, and for which a request can be made, has its name settled. -/
theorem settled_of_mem
    {service : String}
    {seen : SeenNames}
    {entries : List (String × ManifestNode)}
    {store : Store}
    {entry : String × ManifestNode}
    (member : entry ∈ entries)
    {kind : SetupKind}
    (unfaulted : store.faults.get? (kind.nameFor entry.2) = none)
    {request : SetupRequest}
    (made : kind.requestFor entry = .ok request) :
    Settled kind (kind.nameFor entry.2) seen store (itemsFrom service seen entries store) := by
  induction entries generalizing seen with
  | nil => nomatch member
  | cons first later inductionHypothesis =>
      obtain ⟨own, turn, within⟩ := turnIn_nodeItems service seen first store kind
      rw [itemsFrom_cons]
      -- What holds after the turn of the first node holds of the whole pass.
      have lifted : kind.nameFor entry.2 ∈
            kind.seen (nodeItems (Context.inMemory service) seen first store).1.2 →
          Settled kind (kind.nameFor entry.2) seen store
            ((nodeItems (Context.inMemory service) seen first store).1.1 ++
              itemsFrom service (nodeItems (Context.inMemory service) seen first store).1.2
                later store) := by
        intro known
        obtain before | present | ⟨wanted, inside, named⟩ := turn.seen_cases known
        · exact .inl before
        · exact .inr (.inl present)
        · exact .inr (.inr ⟨wanted, List.mem_append_left _ (within inside), named⟩)
      rcases List.mem_cons.mp member with rfl | member
      · exact lifted (turn.mem_seenAfter unfaulted made)
      · have rest : Settled kind (kind.nameFor entry.2)
            (nodeItems (Context.inMemory service) seen first store).1.2 store
            (itemsFrom service (nodeItems (Context.inMemory service) seen first store).1.2 later
              store) := inductionHypothesis member
        obtain known | present | ⟨wanted, inside, named⟩ := rest
        · exact lifted known
        · exact .inr (.inl present)
        · exact .inr (.inr ⟨wanted, List.mem_append_right _ inside, named⟩)

/-- Each request of a pass is made by one of its nodes, for a name that the catalog does not hold. -/
theorem of_mem_itemsFrom
    {service : String}
    {seen : SeenNames}
    {entries : List (String × ManifestNode)}
    {store : Store}
    {request : SetupRequest}
    (member : .ok request ∈ itemsFrom service seen entries store) :
    ∃ entry ∈ entries, request.kind.requestFor entry = .ok request ∧
      request.name = request.kind.nameFor entry.2 ∧
        store.contains request.kind.entity request.name = false := by
  induction entries generalizing seen with
  | nil => nomatch member
  | cons first later inductionHypothesis =>
      rw [itemsFrom_cons] at member
      rcases List.mem_append.mp member with inside | inside
      · obtain ⟨kind, own, turn, made⟩ := turnIn_of_mem_nodeItems service seen first store inside
        obtain ⟨requested, rfl, named, -, absent⟩ := turn.of_requested made
        exact ⟨first, List.mem_cons_self, requested, named, absent⟩
      · obtain ⟨entry, among, rest⟩ := inductionHypothesis inside
        exact ⟨entry, List.mem_cons_of_mem _ among, rest⟩

/-! ## Requests do not disturb the pass -/

/-- Where a pass stands when its requests are applied as they come: the catalog still answers as at
the start, except for names that are seen, and the requests that wait are for names that are seen. -/
def SetupStanding (base : Store) :
    LazySequence.Standing Store (String × ManifestNode) SeenNames (Except Failure SetupRequest) :=
  fun store seen ready _ =>
    store.faults = base.faults ∧
      (∀ kind : SetupKind, ∀ name, name ∉ kind.seen seen →
        store.contains kind.entity name = base.contains kind.entity name) ∧
      ∀ request, .ok request ∈ ready → request.name ∈ request.kind.seen seen

theorem turnItems_alike
    (service : String)
    (kind : SetupKind)
    (entry : String × ManifestNode)
    (seen : List String)
    {store base : Store}
    (sameFaults : store.faults = base.faults)
    (sameNames : ∀ name, name ∉ seen →
      store.contains kind.entity name = base.contains kind.entity name) :
    (turnItems (Context.inMemory service) kind entry seen store).1 =
      (turnItems (Context.inMemory service) kind entry seen base).1 := by
  rw [turnItems_inMemory, turnItems_inMemory]
  by_cases known : kind.nameFor entry.2 ∈ seen
  · rw [if_pos known, if_pos known]
  · rw [if_neg known, if_neg known, sameFaults, sameNames _ known]
    cases base.faults.get? (kind.nameFor entry.2) with
    | some error => rfl
    | none =>
        cases base.contains kind.entity (kind.nameFor entry.2) with
        | true => rfl
        | false => cases kind.requestFor entry <;> rfl

theorem setup_undisturbed
    (service : String)
    (base : Store) :
    LazySequence.Undisturbed (SetupStanding base) base (nodeItems (Context.inMemory service))
      Store.sink.deliverSetup where
  asks seen entry store := nodeItems_leaves service seen entry store
  alike store seen entry _ standing := by
    obtain ⟨sameFaults, sameNames, -⟩ := standing
    have suites := turnItems_alike service .suite entry seen.suites sameFaults (sameNames .suite)
    have definitions := turnItems_alike service .definition entry seen.definitions sameFaults
      (sameNames .definition)
    rw [nodeItems_eq_turns, nodeItems_eq_turns]
    dsimp only
    rw [turnItems_leaves, turnItems_leaves, suites, definitions]
  jobsKeep store seen entry jobs standing := by
    obtain ⟨sameFaults, sameNames, -⟩ := standing
    rw [nodeItems_leaves]
    refine ⟨sameFaults, fun kind name fresh => ?_, fun request member => ?_⟩
    · obtain ⟨own, turn, -⟩ := turnIn_nodeItems service seen entry store kind
      exact sameNames kind name fun known => fresh (turn.subset known)
    · obtain ⟨kind, own, turn, made⟩ := turnIn_of_mem_nodeItems service seen entry store member
      obtain ⟨-, rfl, -, remembered, -⟩ := turn.of_requested made
      exact remembered
  consumerKeeps store seen item ready jobs standing := by
    obtain ⟨sameFaults, sameNames, waiting⟩ := standing
    have stillWaiting : ∀ request, .ok request ∈ ready → request.name ∈ request.kind.seen seen :=
      fun request member => waiting request (List.mem_cons_of_mem _ member)
    cases item with
    | error failure => exact ⟨sameFaults, sameNames, stillWaiting⟩
    | ok request =>
        rw [LazySequence.delivering, Store.deliverSetup_eq]
        cases request.refusal with
        | some failure => exact ⟨sameFaults, sameNames, stillWaiting⟩
        | none =>
            refine ⟨(store.faults_addEntity _ _).trans sameFaults, ?_, stillWaiting⟩
            intro kind name fresh
            rw [← sameNames kind name fresh, Bool.eq_iff_iff, Store.contains_addEntity]
            apply or_iff_right
            rintro ⟨sameKind, rfl⟩
            rw [SetupKind.entity_injective sameKind] at fresh
            exact fresh (waiting request List.mem_cons_self)

end TestSetup

/-! ## The setup stage -/

namespace Run

variable {run : Run Store} {service : String}

/-- The setup requests of a run that a catalog accepts. -/
def setupRequests (run : Run Store) (service : String) (store : Store) : List SetupRequest :=
  acceptedAmong SetupRequest.refusal
    (TestSetup.itemsFrom service ⟨[], []⟩ run.tests.entries store)

/-- What comes of forwarding setup requests. -/
theorem forward_setup
    (inMemory : run.context = .inMemory service)
    (report : Report)
    {store base : Store}
    (alike : store.AnswersLike base) :
    let forwarded := run.setup.forward Store.sink.deliverSetup report store
    forwarded.1.1 = run.setupRequests service base ∧
      forwarded.2 = store.addEach ((run.setupRequests service base).map SetupRequest.entry) := by
  intro forwarded
  obtain ⟨context, artifacts, resolved, runResults⟩ := run
  dsimp only at inMemory
  subst inMemory
  have started : TestSetup.SetupStanding base store ⟨[], []⟩ [] resolved.tests.entries := by
    refine ⟨alike.faults, fun kind name _ => ?_, fun _ member => nomatch member⟩
    rw [alike.contains]
  obtain ⟨same, -⟩ := (TestSetup.setup_undisturbed service base).forward_eq
    Store.decides_deliverSetup ⟨[], []⟩ resolved.tests.entries report started trivial
  have whole : forwarded = _ := same
  rw [whole]
  exact ⟨rfl, Store.deliverAll_deliverSetup _ store⟩

/-- Each request is made by a test node, is not for the empty name, and is for a name that the
catalog does not hold. -/
theorem of_mem_setupRequests
    {base : Store}
    {request : SetupRequest}
    (member : request ∈ run.setupRequests service base) :
    (∃ entry ∈ run.tests.entries, request.kind.requestFor entry = .ok request ∧
        request.name = request.kind.nameFor entry.2) ∧
      request.name ≠ "" ∧ base.contains request.kind.entity request.name = false := by
  obtain ⟨succeeded, accepted⟩ := List.mem_filter.mp member
  obtain ⟨outcome, yielded, same⟩ := List.mem_filterMap.mp succeeded
  cases outcome with
  | error failure => nomatch same
  | ok wanted =>
      cases same
      obtain ⟨entry, among, made, named, absent⟩ := TestSetup.of_mem_itemsFrom yielded
      refine ⟨⟨entry, among, made, named⟩, ?_, absent⟩
      rw [SetupRequest.isNone_refusal] at accepted
      intro empty
      rw [empty] at accepted
      nomatch accepted

/-- After the setup stage the catalog holds the name that a test node needs, if there is no fault
for it, a request can be made and it is not empty. -/
theorem contains_setup
    {store base : Store}
    (alike : store.AnswersLike base)
    {entry : String × ManifestNode}
    (among : entry ∈ run.tests.entries)
    {kind : SetupKind}
    (unfaulted : base.faults.get? (kind.nameFor entry.2) = none)
    {request : SetupRequest}
    (made : kind.requestFor entry = .ok request)
    (named : kind.nameFor entry.2 ≠ "") :
    (store.addEach ((run.setupRequests service base).map SetupRequest.entry)).contains kind.entity
      (kind.nameFor entry.2) = true := by
  rw [Store.contains_addEach, alike.contains]
  have settled : TestSetup.Settled kind (kind.nameFor entry.2) ⟨[], []⟩ base
      (TestSetup.itemsFrom service ⟨[], []⟩ run.tests.entries base) :=
    TestSetup.settled_of_mem among unfaulted made
  obtain known | present | ⟨wanted, inside, same⟩ := settled
  · cases kind <;> nomatch known
  · exact .inr present
  · refine .inl (List.mem_map.mpr ⟨wanted, ?_, same⟩)
    refine List.mem_filter.mpr ⟨List.mem_filterMap.mpr ⟨_, inside, rfl⟩, ?_⟩
    have sameName : wanted.name = kind.nameFor entry.2 := congrArg Prod.snd same
    rw [SetupRequest.isNone_refusal, sameName]
    simpa using named

end Run
end CatalogIngest
