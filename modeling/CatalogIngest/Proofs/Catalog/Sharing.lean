import CatalogIngest.Catalog.Snapshot
import CatalogIngest.Proofs.Catalog.Growth

/-!
# A catalog under every sequence of operations

An in-memory catalog is opened empty, with given entities and faults, or from a snapshot. From then
on it is used through the original handle and its clones, which all lead to the same store. Whatever
they do in whatever order, the store stays sound and only grows; names and look-ups agree; and an
operation that is refused, like every question, leaves the store as it is.
-/

namespace CatalogIngest
namespace Store

/-- A question to a catalog. -/
inductive Query
  | clientName
  | lookup (kind : EntityKind) (fullName : String)
  | reference (kind : EntityKind) (fullName : String)
  | build (request : NameRequest)
  | contains (kind : EntityKind) (fullName : String)
  | names (kind : EntityKind)
  | count (kind : EntityKind)
  | edges
  | resultsOf (fullName : String)
  | snapshot

/-- Something to do with a catalog. -/
inductive Operation
  | ask (query : Query)
  | addEntity (kind : EntityKind) (fullName : String)
  | addFault (name : String) (error : CatalogError)
  | createSuite (request : SuiteRequest)
  | createDefinition (request : DefinitionRequest)
  | createCase (request : CaseRequest)
  | addLineage (request : LineageRequest)
  | submit (fullName : String) (result : TestResult)

/-- What a catalog answers. -/
inductive Answer
  | refused (error : CatalogError)
  | done
  | text (text : String)
  | entity (entity : Entity)
  | found (entity : Option Entity)
  | reference (reference : Option EntityReference)
  | fullName (fullName : Option String)
  | truth (value : Bool)
  | fullNames (fullNames : List String)
  | number (count : Nat)
  | edges (edges : List LineageEdge)
  | results (results : List TestResult)
  | snapshot (snapshot : Snapshot)
  deriving DecidableEq

/-- Make a call and answer with its outcome. -/
def answering {α : Type} (answer : α → Answer) (call : CatalogCall Store α) :
    StateM Store Answer := fun store =>
  match call store with
  | (.error error, store) => (.refused error, store)
  | (.ok value, store) => (answer value, store)

namespace Query

/-- Answer a question. -/
def perform : Query → StateM Store Answer
  | .clientName => fun store => (.text client.name, store)
  | .lookup kind fullName => answering .found (client.lookup kind fullName)
  | .reference kind fullName => answering .reference (client.reference kind fullName)
  | .build request => answering .fullName (nameBuilder.build request)
  | .contains kind fullName => fun store => (.truth (store.contains kind fullName), store)
  | .names kind => fun store => (.fullNames (store.names kind), store)
  | .count kind => fun store => (.number (store.count kind), store)
  | .edges => fun store => (.edges store.lineage, store)
  | .resultsOf fullName => fun store => (.results (store.resultsOf fullName), store)
  | .snapshot => fun store => (.snapshot store.snapshot, store)

end Query

namespace Operation

/-- Carry out an operation. -/
def perform : Operation → StateM Store Answer
  | .ask query => query.perform
  | .addEntity kind fullName => fun store =>
      let (entity, store) := store.addEntity kind fullName
      (.entity entity, store)
  | .addFault name error => fun store => (.done, store.addFault name error)
  | .createSuite request => answering .entity (sink.createSuite request)
  | .createDefinition request => answering .entity (sink.createDefinition request)
  | .createCase request => answering .entity (sink.createCase request)
  | .addLineage request => answering (fun _ => .done) (sink.addLineage request)
  | .submit fullName result => answering (fun _ => .done) (client.submit fullName result)

end Operation

/-! ## One operation -/

theorem answering_snd
    {α : Type}
    (answer : α → Answer)
    (call : CatalogCall Store α)
    (store : Store) :
    (answering answer call store).2 = (call store).2 := by
  unfold answering
  split
  · next changed => rw [changed]
  · next changed => rw [changed]

/-- Only an error is answered with a refusal. -/
theorem error_of_answering_refused
    {α : Type}
    {answer : α → Answer}
    {call : CatalogCall Store α}
    {store : Store}
    {error : CatalogError}
    (answers : ∀ value, answer value ≠ .refused error)
    (refused : (answering answer call store).1 = .refused error) :
    (call store).1 = .error error := by
  unfold answering at refused
  split at refused
  · next changed =>
    cases refused
    rw [changed]
  · exact absurd refused (answers _)

/-- A question leaves the catalog as it is. -/
theorem Query.perform_snd
    (query : Query)
    (store : Store) :
    (query.perform store).2 = store := by
  cases query with
  | lookup kind fullName => exact answering_snd _ _ _
  | reference kind fullName => exact answering_snd _ _ _
  | build request => exact answering_snd _ _ _
  | clientName | contains | names | count | edges | resultsOf | snapshot => rfl

/-- Every operation lets the catalog grow. -/
theorem Operation.grows
    (operation : Operation)
    (store : Store) :
    store.Grows (operation.perform store).2 := by
  cases operation with
  | ask query =>
      rw [Operation.perform, query.perform_snd]
      exact .refl store
  | addEntity kind fullName => exact store.grows_addEntity kind fullName
  | addFault name error => exact store.grows_addFault name error
  | createSuite request =>
      rw [Operation.perform, answering_snd]
      exact store.grows_createSuite request
  | createDefinition request =>
      rw [Operation.perform, answering_snd]
      exact store.grows_createDefinition request
  | createCase request =>
      rw [Operation.perform, answering_snd]
      exact store.grows_createCase request
  | addLineage request =>
      rw [Operation.perform, answering_snd]
      exact store.grows_addLineage request
  | submit fullName result =>
      rw [Operation.perform, answering_snd]
      exact store.grows_submit fullName result

theorem createSuite_of_error
    {store : Store}
    {request : SuiteRequest}
    {error : CatalogError}
    (refused : (store.createSuite request).1 = .error error) :
    (store.createSuite request).2 = store := by
  unfold createSuite at refused ⊢
  split at refused
  · next blank => rw [if_pos blank]
  · cases refused

theorem createDefinition_of_error
    {store : Store}
    {request : DefinitionRequest}
    {error : CatalogError}
    (refused : (store.createDefinition request).1 = .error error) :
    (store.createDefinition request).2 = store := by
  unfold createDefinition at refused ⊢
  split at refused
  · next blank => rw [if_pos blank]
  · cases refused

theorem createCase_of_error
    {store : Store}
    {request : CaseRequest}
    {error : CatalogError}
    (refused : (store.createCase request).1 = .error error) :
    (store.createCase request).2 = store := by
  unfold createCase at refused ⊢
  split at refused
  · cases refused
  · next absent => rw [if_neg absent]

theorem submit_of_error
    {store : Store}
    {fullName : String}
    {result : TestResult}
    {error : CatalogError}
    (refused : (store.submit fullName result).1 = .error error) :
    (store.submit fullName result).2 = store := by
  rcases store.submit_cases fullName result with ⟨other, same⟩ | ⟨_, accepted⟩
  · rw [same]
  · rw [accepted] at refused
    cases refused

/-- An operation that is refused leaves the catalog as it is. -/
theorem Operation.perform_of_refused
    {operation : Operation}
    {store : Store}
    {error : CatalogError}
    (refused : (operation.perform store).1 = .refused error) :
    (operation.perform store).2 = store := by
  cases operation with
  | ask query => exact query.perform_snd store
  | addEntity kind fullName => cases refused
  | addFault name other => cases refused
  | createSuite request =>
      rw [Operation.perform, answering_snd]
      exact createSuite_of_error (error_of_answering_refused (by simp) refused)
  | createDefinition request =>
      rw [Operation.perform, answering_snd]
      exact createDefinition_of_error (error_of_answering_refused (by simp) refused)
  | createCase request =>
      rw [Operation.perform, answering_snd]
      exact createCase_of_error (error_of_answering_refused (by simp) refused)
  | addLineage request =>
      exact nomatch error_of_answering_refused (by simp) refused
  | submit fullName result =>
      rw [Operation.perform, answering_snd]
      exact submit_of_error (error_of_answering_refused (by simp) refused)

/-! ## Opening a catalog -/

/-- The ways to open a catalog. -/
inductive Origin
  | fresh
  | built (entities : List (EntityKind × String)) (faults : List (String × CatalogError))
  | ofSnapshot (snapshot : Snapshot)

namespace Origin

/-- The catalog that is opened; its entities are numbered from a given number on. -/
def store (firstNumber : Nat) : Origin → Store
  | .fresh => empty firstNumber
  | .built entities faults =>
      faults.foldl (fun store fault => store.addFault fault.1 fault.2)
        (entities.foldl (fun store entry => (store.addEntity entry.1 entry.2).2)
          (empty firstNumber))
  | .ofSnapshot snapshot => Store.ofSnapshot firstNumber snapshot

end Origin

theorem grows_addAll
    (store : Store)
    (kind : EntityKind)
    (fullNames : List String) :
    store.Grows (store.addAll kind fullNames) :=
  grows_foldl (fun store fullName => store.grows_addEntity kind fullName) fullNames store

theorem Origin.sound_store
    (origin : Origin)
    (firstNumber : Nat) :
    (origin.store firstNumber).Sound := by
  have start := sound_empty firstNumber
  cases origin with
  | fresh => exact start
  | built entities faults =>
      have filled := grows_foldl
        (fun store (entry : EntityKind × String) => store.grows_addEntity entry.1 entry.2)
        entities (empty firstNumber)
      have spoiled := grows_foldl
        (fun store (fault : String × CatalogError) => store.grows_addFault fault.1 fault.2)
        faults
      exact (filled.trans (spoiled _)).sound start
  | ofSnapshot snapshot =>
      have filled := grows_foldl
        (fun store (group : EntityKind × List String) => store.grows_addAll group.1 group.2)
        snapshot.groups
      exact (filled _).sound start

end Store

/-! ## Sharing a catalog -/

/-- A store with the number of handles that lead to it. The first is the original, and every further
one a clone. -/
structure SharedStore where
  store : Store
  handles : Nat

namespace SharedStore

open Store

/-- What the owner of a handle can do with it. -/
inductive Action
  | clone (handle : Nat)
  | call (handle : Nat) (operation : Operation)

/-- A catalog with its original handle. -/
def opened (origin : Origin) (firstNumber : Nat) : SharedStore :=
  ⟨origin.store firstNumber, 1⟩

/-- Act through a handle, if there is one of the number. Every handle leads to the same store. -/
def act (shared : SharedStore) : Action → SharedStore
  | .clone handle =>
      if handle < shared.handles then { shared with handles := shared.handles + 1 } else shared
  | .call handle operation =>
      if handle < shared.handles then
        { shared with store := (operation.perform shared.store).2 }
      else shared

/-- Act in turn. -/
def after (shared : SharedStore) (actions : List Action) : SharedStore :=
  actions.foldl act shared

theorem grows_act
    (shared : SharedStore)
    (action : Action) :
    shared.store.Grows (shared.act action).store := by
  cases action with
  | clone handle =>
      simp only [act]
      split <;> exact .refl shared.store
  | call handle operation =>
      simp only [act]
      split
      · exact operation.grows shared.store
      · exact .refl shared.store

/-- Every run of actions lets the catalog grow. -/
theorem grows_after
    (shared : SharedStore)
    (actions : List Action) :
    shared.store.Grows (shared.after actions).store := by
  induction actions generalizing shared with
  | nil => exact .refl shared.store
  | cons action later inductionHypothesis =>
      exact (shared.grows_act action).trans (inductionHypothesis (shared.act action))

theorem sound_after_opened
    (origin : Origin)
    (firstNumber : Nat)
    (actions : List Action) :
    ((opened origin firstNumber).after actions).store.Sound :=
  (grows_after _ actions).sound (origin.sound_store firstNumber)

end SharedStore

/-- A catalog that is reached by some actions after opening it. -/
def Store.Reachable (store : Store) : Prop :=
  ∃ origin firstNumber actions,
    ((SharedStore.opened origin firstNumber).after actions).store = store

theorem Store.Reachable.sound
    {store : Store}
    (reachable : store.Reachable) :
    store.Sound := by
  obtain ⟨origin, firstNumber, actions, rfl⟩ := reachable
  exact SharedStore.sound_after_opened origin firstNumber actions

namespace Store

/-- Without a fault for a name, a look-up answers with the entity of the name. -/
theorem lookup_of_unfaulted
    {store : Store}
    {fullName : String}
    (unfaulted : store.faults.get? fullName = none)
    (kind : EntityKind) :
    store.lookup kind fullName = .ok (store.entity? kind fullName) := by
  simp [lookup, unfaulted]

/-- Names are listed once in increasing order, they are counted, and a look-up without a fault finds
an entity exactly for them. -/
def NamesAgree (store : Store) (kind : EntityKind) : Prop :=
  (store.names kind).Pairwise (· < ·) ∧
    store.count kind = (store.names kind).length ∧
      ∀ fullName, store.faults.get? fullName = none →
        ∃ found, store.lookup kind fullName = .ok found ∧
          (found.isSome = true ↔ fullName ∈ store.names kind)

theorem namesAgree
    (store : Store)
    (kind : EntityKind) :
    store.NamesAgree kind := by
  refine ⟨SortedMap.keys_increasing _, (SortedMap.length_keys _).symm, ?_⟩
  intro fullName unfaulted
  refine ⟨store.entity? kind fullName, lookup_of_unfaulted unfaulted kind, ?_⟩
  exact store.contains_iff_mem_names kind fullName

end Store

/-- Whatever is done through the handles of a catalog, at every moment the store is sound, its names
agree with its look-ups, and no question and no refused operation would change it; and at every
later moment the store extends what it was. -/
theorem SharedStore.invariant_and_atomicity
    (origin : Store.Origin)
    (firstNumber : Nat)
    (earlier later : List SharedStore.Action) :
    let shared := (SharedStore.opened origin firstNumber).after earlier
    shared.store.Sound ∧
      shared.store.Extends (shared.after later).store ∧
      (∀ kind, shared.store.NamesAgree kind) ∧
      (∀ query : Store.Query, (query.perform shared.store).2 = shared.store) ∧
      (∀ (operation : Store.Operation) error,
        (operation.perform shared.store).1 = .refused error →
          (operation.perform shared.store).2 = shared.store) := by
  intro shared
  refine ⟨SharedStore.sound_after_opened origin firstNumber earlier, ?_, ?_, ?_, ?_⟩
  · exact (shared.grows_after later).toExtends
  · exact shared.store.namesAgree
  · exact fun query => query.perform_snd shared.store
  · exact fun operation error refused => Store.Operation.perform_of_refused refused

end CatalogIngest
