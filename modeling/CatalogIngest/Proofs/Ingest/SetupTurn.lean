import CatalogIngest.Ingest.TestSetup
import CatalogIngest.Proofs.Ingest.Consumption

/-!
# One turn of a setup pass

A pass over suites and definitions asks the catalog about names and hands out requests. Questions
and items are written down in the order in which they happen. Each test node takes two turns, one
for its suite and one for its definition, and both go the same few ways.
-/

namespace CatalogIngest

/-- The two kinds of things that a pass sets up. -/
inductive SetupKind
  | suite
  | definition
  deriving DecidableEq

namespace SetupRequest

/-- The kind of thing that a request sets up. -/
def kind : SetupRequest → SetupKind
  | .suite _ => .suite
  | .definition _ => .definition

/-- The name that a request gives. -/
def name : SetupRequest → String
  | .suite request => request.name
  | .definition request => request.name

end SetupRequest

namespace SetupKind

/-- The kind that the catalog is asked about. -/
def entity : SetupKind → EntityKind
  | .suite => .testSuite
  | .definition => .testDefinition

/-- The name that a test node needs. -/
def nameFor : SetupKind → ManifestNode → String
  | .suite, node => node.suiteName
  | .definition, node => node.name

/-- The request that a test node makes when the catalog does not know its name. -/
def requestFor : SetupKind → String × ManifestNode → Except Failure SetupRequest
  | .suite, entry => .ok (.suite entry.2.suiteRequest)
  | .definition, entry => (entry.2.definitionRequest entry.1).map .definition

/-- The names of a kind that a pass needs not look up again. -/
def seen : SetupKind → SeenNames → List String
  | .suite, names => names.suites
  | .definition, names => names.definitions

theorem entity_injective
    {left right : SetupKind}
    (same : left.entity = right.entity) :
    left = right := by
  cases left <;> cases right <;> first | rfl | nomatch same

theorem definitionRequest_cases
    (node : ManifestNode)
    (key : String) :
    (∃ request, node.definitionRequest key = .ok request ∧ request.name = node.name) ∨
      ∃ message, node.definitionRequest key = .error (.shape .testSetup key message) := by
  unfold ManifestNode.definitionRequest ManifestNode.requireMetadata
  cases node.testMetadata with
  | some metadata => exact .inl ⟨_, rfl, rfl⟩
  | none => exact .inr ⟨_, rfl⟩

/-- A request sets up the name that its node needs. -/
theorem requestFor_ok
    {kind : SetupKind}
    {entry : String × ManifestNode}
    {request : SetupRequest}
    (made : kind.requestFor entry = .ok request) :
    request.kind = kind ∧ request.name = kind.nameFor entry.2 := by
  cases kind with
  | suite =>
      cases made
      exact ⟨rfl, rfl⟩
  | definition =>
      simp only [requestFor] at made
      obtain ⟨wanted, known, named⟩ | ⟨message, refused⟩ :=
        definitionRequest_cases entry.2 entry.1
      · rw [known] at made
        cases made
        exact ⟨rfl, named⟩
      · rw [refused] at made
        nomatch made

/-- A node that can make no request fails under its own key. -/
theorem subject_of_requestFor_error
    {kind : SetupKind}
    {entry : String × ManifestNode}
    {failure : Failure}
    (refused : kind.requestFor entry = .error failure) :
    failure.subject = entry.1 := by
  cases kind with
  | suite => nomatch refused
  | definition =>
      simp only [requestFor] at refused
      obtain ⟨wanted, known, -⟩ | ⟨message, failed⟩ :=
        definitionRequest_cases entry.2 entry.1
      · rw [known] at refused
        nomatch refused
      · rw [failed] at refused
        cases refused
        rfl

end SetupKind

/-! ## What is written down -/

/-- What happens in a pass: a question to the catalog with its answer, or an item handed out. -/
inductive PassEvent
  | asked (kind : EntityKind) (name : String) (answer : Except CatalogError (Option Entity))
  | yielded (item : Except Failure SetupRequest)

namespace PassEvent

/-- The item that is handed out, if any. -/
def item? : PassEvent → Option (Except Failure SetupRequest)
  | .asked _ _ _ => none
  | .yielded item => some item

/-- The name that is looked up as of a kind, if any. -/
def asks? (kind : SetupKind) : PassEvent → Option String
  | .asked entity name _ => if entity = kind.entity then some name else none
  | .yielded _ => none

/-- The name that the catalog reports to exist as of a kind, if any. -/
def finds? (kind : SetupKind) : PassEvent → Option String
  | .asked entity name (.ok (some _)) => if entity = kind.entity then some name else none
  | _ => none

/-- The name that is requested as of a kind, if any. -/
def emits? (kind : SetupKind) : PassEvent → Option String
  | .yielded (.ok request) => if request.kind = kind then some request.name else none
  | _ => none

/-- The event requests a name or reports it to exist. -/
def Settles (event : PassEvent) (kind : SetupKind) (name : String) : Prop :=
  event.emits? kind = some name ∨ event.finds? kind = some name

/-- The event says nothing about a kind. -/
structure Silent (event : PassEvent) (kind : SetupKind) : Prop where
  asks : event.asks? kind = none
  finds : event.finds? kind = none
  emits : event.emits? kind = none

end PassEvent

/-! ## Writing down what happens -/

/-- The state of a catalog together with what has happened so far. -/
structure Observed (σ : Type) where
  state : σ
  events : List PassEvent

namespace Observed

variable {σ : Type}

/-- Let a consumer act, and write down what it was handed. -/
def consumer (consume : Except Failure SetupRequest → σ → σ) :
    Except Failure SetupRequest → Observed σ → Observed σ := fun item observed =>
  ⟨consume item observed.state, observed.events ++ [.yielded item]⟩

/-- Let a call act on the state alone. -/
def call {α : Type} (call : CatalogCall σ α) : CatalogCall (Observed σ) α := fun observed =>
  ((call observed.state).1, { observed with state := (call observed.state).2 })

/-- Let a look-up act on the state, and write down the question and its answer. -/
def lookup (lookup : EntityKind → String → CatalogCall σ (Option Entity)) (kind : EntityKind)
    (name : String) : CatalogCall (Observed σ) (Option Entity) := fun observed =>
  let answer := lookup kind name observed.state
  (answer.1, ⟨answer.2, observed.events ++ [.asked kind name answer.1]⟩)

end Observed

/-- The same collaborators, with every look-up written down. -/
def Context.observed {σ : Type} (context : Context σ) : Context (Observed σ) where
  service := context.service
  client :=
    { name := context.client.name
      lookup := Observed.lookup context.client.lookup
      submit := fun name result => Observed.call (context.client.submit name result) }
  names := ⟨fun request => Observed.call (context.names.build request)⟩
  readType := context.readType

/-! ## One node, one kind -/

namespace TestSetup

variable {σ : Type}

/-- What a node adds of a kind: its request, unless the name is settled or cannot be. -/
def turnItems (context : Context σ) (kind : SetupKind) (entry : String × ManifestNode)
    (seen : List String) : StateM σ (Batch × List String) := fun state =>
  if kind.nameFor entry.2 ∈ seen then (([], seen), state)
  else
    match context.client.lookup kind.entity (kind.nameFor entry.2) state with
    | (.error error, state) =>
        (([.error (.external .testSetup entry.1 error.message)], seen), state)
    | (.ok (some _), state) => (([], kind.nameFor entry.2 :: seen), state)
    | (.ok none, state) =>
        match kind.requestFor entry with
        | .error failure => (([.error failure], seen), state)
        | .ok request => (([.ok request], kind.nameFor entry.2 :: seen), state)

theorem suiteItems_eq_turnItems
    (context : Context σ)
    (entry : String × ManifestNode)
    (seen : List String) :
    suiteItems context entry.1 entry.2 seen = turnItems context .suite entry seen := by
  funext state
  unfold suiteItems turnItems Context.entityExists
  by_cases known : SetupKind.suite.nameFor entry.2 ∈ seen
  · rw [if_pos known]
    exact if_pos known
  · rw [if_neg known]
    refine (if_neg known).trans ?_
    simp only [SetupKind.nameFor, SetupKind.entity, SetupKind.requestFor, ExceptT.run, ExceptT.mk]
    rcases context.client.lookup .testSuite entry.2.suiteName state with
      ⟨error | (_ | entity), after⟩ <;> rfl

theorem definitionItems_eq_turnItems
    (context : Context σ)
    (entry : String × ManifestNode)
    (seen : List String) :
    definitionItems context entry.1 entry.2 seen = turnItems context .definition entry seen := by
  funext state
  unfold definitionItems turnItems Context.entityExists
  by_cases known : SetupKind.definition.nameFor entry.2 ∈ seen
  · rw [if_pos known]
    exact if_pos known
  · rw [if_neg known]
    refine (if_neg known).trans ?_
    simp only [SetupKind.nameFor, SetupKind.entity, SetupKind.requestFor, ExceptT.run, ExceptT.mk]
    rcases context.client.lookup .testDefinition entry.2.name state with
      ⟨error | (_ | entity), after⟩
    · rfl
    · cases entry.2.definitionRequest entry.1 <;> rfl
    · rfl

/-- What can happen when it is the turn of a node to get what it needs of a kind: what is asked,
which items are made and which names are seen then. -/
inductive Turn (kind : SetupKind) (entry : String × ManifestNode) (seen : List String) :
    List PassEvent → Batch → List String → Prop
  | settled (known : kind.nameFor entry.2 ∈ seen) : Turn kind entry seen [] [] seen
  | refused (fresh : kind.nameFor entry.2 ∉ seen) (error : CatalogError) :
      Turn kind entry seen [.asked kind.entity (kind.nameFor entry.2) (.error error)]
        [.error (.external .testSetup entry.1 error.message)] seen
  | existing (fresh : kind.nameFor entry.2 ∉ seen) (entity : Entity) :
      Turn kind entry seen [.asked kind.entity (kind.nameFor entry.2) (.ok (some entity))] []
        (kind.nameFor entry.2 :: seen)
  | requested (fresh : kind.nameFor entry.2 ∉ seen) (request : SetupRequest)
      (made : kind.requestFor entry = .ok request) :
      Turn kind entry seen [.asked kind.entity (kind.nameFor entry.2) (.ok none)] [.ok request]
        (kind.nameFor entry.2 :: seen)
  | malformed (fresh : kind.nameFor entry.2 ∉ seen) (failure : Failure)
      (unmade : kind.requestFor entry = .error failure) :
      Turn kind entry seen [.asked kind.entity (kind.nameFor entry.2) (.ok none)]
        [.error failure] seen

/-- Every turn is one of those that can happen. -/
theorem turn_of_turnItems
    (context : Context σ)
    (kind : SetupKind)
    (entry : String × ManifestNode)
    (seen : List String)
    (observed : Observed σ) :
    ∃ asks,
      (turnItems context.observed kind entry seen observed).2.events = observed.events ++ asks ∧
        Turn kind entry seen asks (turnItems context.observed kind entry seen observed).1.1
          (turnItems context.observed kind entry seen observed).1.2 := by
  unfold turnItems
  dsimp only [Context.observed, Observed.lookup]
  by_cases known : kind.nameFor entry.2 ∈ seen
  · rw [if_pos known]
    exact ⟨[], (List.append_nil _).symm, .settled known⟩
  · rw [if_neg known]
    rcases context.client.lookup kind.entity (kind.nameFor entry.2) observed.state with
      ⟨error | (_ | entity), after⟩
    · exact ⟨_, rfl, .refused known error⟩
    · cases made : kind.requestFor entry with
      | error failure => exact ⟨_, rfl, .malformed known failure made⟩
      | ok request => exact ⟨_, rfl, .requested known request made⟩
    · exact ⟨_, rfl, .existing known entity⟩

/-- Writing down look-ups changes nothing about a turn. -/
theorem turnItems_view
    (context : Context σ)
    (kind : SetupKind)
    (entry : String × ManifestNode)
    (seen : List String)
    (observed : Observed σ) :
    (turnItems context.observed kind entry seen observed).1 =
        (turnItems context kind entry seen observed.state).1 ∧
      (turnItems context.observed kind entry seen observed).2.state =
        (turnItems context kind entry seen observed.state).2 := by
  unfold turnItems
  dsimp only [Context.observed, Observed.lookup]
  by_cases known : kind.nameFor entry.2 ∈ seen
  · rw [if_pos known, if_pos known]
    exact ⟨rfl, rfl⟩
  · rw [if_neg known, if_neg known]
    rcases context.client.lookup kind.entity (kind.nameFor entry.2) observed.state with
      ⟨error | (_ | entity), after⟩
    · exact ⟨rfl, rfl⟩
    · cases kind.requestFor entry <;> exact ⟨rfl, rfl⟩
    · exact ⟨rfl, rfl⟩

/-- A node takes its turn for its suite and then its turn for its definition. -/
theorem nodeItems_eq_turns
    (context : Context σ)
    (seen : SeenNames)
    (entry : String × ManifestNode)
    (state : σ) :
    let suites := turnItems context .suite entry seen.suites state
    let definitions := turnItems context .definition entry seen.definitions suites.2
    nodeItems context seen entry state =
      ((suites.1.1 ++ definitions.1.1, ⟨suites.1.2, definitions.1.2⟩), definitions.2) := by
  intro suites definitions
  unfold nodeItems
  rw [suiteItems_eq_turnItems, definitionItems_eq_turnItems]
  rfl

theorem nodeItems_view
    (context : Context σ) :
    LazySequence.Simulates Observed.state (nodeItems context.observed) (nodeItems context) := by
  intro seen entry observed
  obtain ⟨sameSuites, suiteState⟩ := turnItems_view context .suite entry seen.suites observed
  have definitions := turnItems_view context .definition entry seen.definitions
    (turnItems context.observed .suite entry seen.suites observed).2
  rw [suiteState] at definitions
  rw [nodeItems_eq_turns, nodeItems_eq_turns, sameSuites]
  dsimp only
  rw [definitions.1, definitions.2]
  exact ⟨rfl, rfl⟩

/-- A turn makes at most one item. -/
theorem Turn.length_le_one
    {kind : SetupKind}
    {entry : String × ManifestNode}
    {seen seenAfter : List String}
    {asks : List PassEvent}
    {items : Batch}
    (turn : Turn kind entry seen asks items seenAfter) :
    items.length ≤ 1 := by
  cases turn <;> exact Nat.le_add_left _ _

/-- Asking hands nothing out. -/
theorem Turn.asks_hand_nothing_out
    {kind : SetupKind}
    {entry : String × ManifestNode}
    {seen seenAfter : List String}
    {asks : List PassEvent}
    {items : Batch}
    (turn : Turn kind entry seen asks items seenAfter) :
    asks.filterMap PassEvent.item? = [] := by
  cases turn <;> rfl

/-- A turn only asks and only hands out what is of its own kind. -/
theorem Turn.silent
    {kind other : SetupKind}
    {entry : String × ManifestNode}
    {seen seenAfter : List String}
    {asks : List PassEvent}
    {items : Batch}
    (turn : Turn kind entry seen asks items seenAfter)
    (different : kind ≠ other)
    {event : PassEvent}
    (member : event ∈ asks ∨ event ∈ items.map .yielded) :
    event.Silent other := by
  have differentEntity : kind.entity ≠ other.entity :=
    fun same => different (SetupKind.entity_injective same)
  have silentAsked : ∀ name answer, (PassEvent.asked kind.entity name answer).Silent other := by
    intro name answer
    refine ⟨if_neg differentEntity, ?_, rfl⟩
    rcases answer with error | (_ | entity)
    · rfl
    · rfl
    · exact if_neg differentEntity
  have silentFailure : ∀ failure, (PassEvent.yielded (.error failure)).Silent other :=
    fun failure => ⟨rfl, rfl, rfl⟩
  cases turn with
  | settled known => simp at member
  | refused fresh error =>
      rcases member with member | member <;> cases List.mem_singleton.mp member
      · exact silentAsked _ _
      · exact silentFailure _
  | existing fresh entity =>
      rcases member with member | member
      · cases List.mem_singleton.mp member
        exact silentAsked _ _
      · nomatch member
  | requested fresh request made =>
      rcases member with member | member <;> cases List.mem_singleton.mp member
      · exact silentAsked _ _
      · refine ⟨rfl, rfl, if_neg ?_⟩
        rw [(SetupKind.requestFor_ok made).1]
        exact different
  | malformed fresh failure unmade =>
      rcases member with member | member <;> cases List.mem_singleton.mp member
      · exact silentAsked _ _
      · exact silentFailure _

end TestSetup
end CatalogIngest
