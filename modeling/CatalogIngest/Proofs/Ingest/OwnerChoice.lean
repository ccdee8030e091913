import CatalogIngest.Ingest.Ingestion
import CatalogIngest.Proofs.Catalog.Sharing
import CatalogIngest.Proofs.Text.Expansion

/-!
# Who an owner's name stands for

On the in-memory catalog a strategy looks at one name only: the least one of its kind in which the
owner's name occurs. If a fault is set for it, the strategy finds nobody, even where a greater name
would do, and the next strategy is tried.
-/

namespace CatalogIngest
namespace Store

/-- A name is the least one of a kind, by code point, in which a text occurs. -/
structure IsLeastWith (store : Store) (kind : EntityKind) (part name : String) : Prop where
  listed : name ∈ store.names kind
  occurs : part.toList <:+: name.toList
  least : ∀ other ∈ store.names kind, part.toList <:+: other.toList → name ≤ other

/-- The first of increasing names that passes a test is the least one that does. -/
theorem find?_names_eq_some_iff
    (store : Store)
    (kind : EntityKind)
    (test : String → Bool)
    (name : String) :
    (store.names kind).find? test = some name ↔
      name ∈ store.names kind ∧ test name = true ∧
        ∀ other ∈ store.names kind, test other = true → name ≤ other := by
  have increasing := (store.namesAgree kind).1
  rw [List.find?_eq_some_iff_append]
  constructor
  · rintro ⟨passes, before, after, split, failing⟩
    rw [split] at increasing ⊢
    obtain ⟨-, behind, -⟩ := List.pairwise_append.mp increasing
    refine ⟨by simp, passes, fun other member passesToo => ?_⟩
    rcases List.mem_append.mp member with inFront | here
    · have fails := failing other inFront
      rw [passesToo] at fails
      nomatch fails
    · rcases List.mem_cons.mp here with rfl | later
      · exact String.le_refl other
      · have below := (List.pairwise_cons.mp behind).1 other later
        exact String.not_lt.mp fun above => String.lt_irrefl _ (String.lt_trans below above)
  · rintro ⟨member, passes, least⟩
    obtain ⟨before, after, split⟩ := List.append_of_mem member
    rw [split] at increasing
    obtain ⟨-, -, inOrder⟩ := List.pairwise_append.mp increasing
    refine ⟨passes, before, after, split, fun other inFront => ?_⟩
    have below := inOrder other inFront name List.mem_cons_self
    rw [Bool.not_eq_true', Bool.eq_false_iff]
    intro passesToo
    have above := least other (split ▸ List.mem_append_left _ inFront) passesToo
    exact String.not_lt.mpr above below

/-- For an owner's name without stars, the name that is built is the least one in which the owner's
name occurs. -/
theorem build_containing_eq_some_iff
    (store : Store)
    {owner : String}
    (starless : '*' ∉ owner.toList)
    (strategy : OwnerStrategy)
    (name : String) :
    store.build (strategy.request (OwnerStrategy.containing owner)) = some name ↔
      store.IsLeastWith strategy.kind owner name := by
  have pattern : (OwnerStrategy.containing owner).toList = '*' :: (owner.toList ++ ['*']) := by
    simp [OwnerStrategy.containing]
  have built : store.build (strategy.request (OwnerStrategy.containing owner)) =
      (store.names strategy.kind).find? fun fullName =>
        Text.globMatches (OwnerStrategy.containing owner).toList fullName.toList := by
    cases strategy <;> rfl
  rw [built, find?_names_eq_some_iff]
  simp only [pattern, Text.globMatches_iff_expansion, Text.expansion_between_stars_iff starless]
  exact ⟨fun ⟨listed, occurs, least⟩ => ⟨listed, occurs, least⟩,
    fun isLeast => ⟨isLeast.listed, isLeast.occurs, isLeast.least⟩⟩

/-- Where an owner's name occurs in some name, there is a least such name. -/
theorem exists_isLeastWith
    {store : Store}
    {kind : EntityKind}
    {part name : String}
    (listed : name ∈ store.names kind)
    (occurs : part.toList <:+: name.toList) :
    ∃ least, store.IsLeastWith kind part least := by
  cases found : (store.names kind).find? fun other => part.toList <:+: other.toList with
  | none => exact absurd occurs (by simpa using List.find?_eq_none.mp found name listed)
  | some least =>
      obtain ⟨among, passes, below⟩ := (store.find?_names_eq_some_iff kind _ least).mp found
      simp only [decide_eq_true_eq] at passes below
      exact ⟨least, among, passes, below⟩

end Store

namespace OwnerStrategy

/-- A strategy finds an entity for an owner's name: the entity bears the least name of its kind in
which the owner's name occurs, and no fault is set for that name. -/
def Finds (strategy : OwnerStrategy) (store : Store) (owner : String) (entity : Entity) : Prop :=
  ∃ name, store.IsLeastWith strategy.kind owner name ∧ store.faults.get? name = none ∧
    store.entity? strategy.kind name = some entity

/-! ## One strategy -/

/-- The in-memory catalog builds one name and looks that one up. -/
theorem lookup_inMemory
    (strategy : OwnerStrategy)
    (service pattern : String)
    (store : Store) :
    strategy.lookup (.inMemory service) pattern store =
      (match store.build (strategy.request pattern) with
        | none => .ok none
        | some name => (store.lookup strategy.kind name).map (Option.map Entity.reference),
        store) := by
  have built : (Context.inMemory service).names.build (strategy.request pattern) store =
      (.ok (store.build (strategy.request pattern)), store) := rfl
  unfold lookup
  rw [built]
  cases store.build (strategy.request pattern) <;> rfl

/-- What is looked up is what the strategy finds. -/
theorem lookup_eq_some_iff
    (strategy : OwnerStrategy)
    (service : String)
    (store : Store)
    {owner : String}
    (starless : '*' ∉ owner.toList)
    (reference : EntityReference) :
    (strategy.lookup (.inMemory service) (containing owner) store).1 = .ok (some reference) ↔
      ∃ entity, strategy.Finds store owner entity ∧ entity.reference = reference := by
  have built := store.build_containing_eq_some_iff starless strategy
  rw [lookup_inMemory]
  cases named : store.build (strategy.request (containing owner)) with
  | none =>
      refine iff_of_false (by simp) ?_
      rintro ⟨entity, ⟨name, isLeast, -⟩, -⟩
      rw [(built name).mpr isLeast] at named
      nomatch named
  | some name =>
      have isLeast := (built name).mp named
      have only : ∀ entity, strategy.Finds store owner entity ↔
          store.lookup strategy.kind name = .ok (some entity) := by
        intro entity
        unfold Finds Store.lookup
        constructor
        · rintro ⟨other, otherLeast, unfaulted, found⟩
          have same : some name = some other := named.symm.trans ((built other).mpr otherLeast)
          cases same
          rw [unfaulted, found]
        · intro answered
          cases fault : store.faults.get? name with
          | some error =>
              rw [fault] at answered
              nomatch answered
          | none =>
              rw [fault] at answered
              exact ⟨name, isLeast, fault, Except.ok.inj answered⟩
      simp only [only]
      rcases store.lookup strategy.kind name with error | (_ | entity) <;> simp [Except.map]

/-- A strategy that finds nobody saw no name in which the owner's name occurs, or a fault for the
least one. -/
theorem of_finds_nobody
    {strategy : OwnerStrategy}
    {store : Store}
    {owner : String}
    (nobody : ∀ entity, ¬ strategy.Finds store owner entity) :
    (∀ name ∈ store.names strategy.kind, ¬ owner.toList <:+: name.toList) ∨
      ∃ name error, store.IsLeastWith strategy.kind owner name ∧
        store.faults.get? name = some error := by
  by_cases somewhere : ∃ name ∈ store.names strategy.kind, owner.toList <:+: name.toList
  · obtain ⟨name, listed, occurs⟩ := somewhere
    obtain ⟨least, isLeast⟩ := Store.exists_isLeastWith listed occurs
    refine .inr ⟨least, ?_⟩
    cases fault : store.faults.get? least with
    | some error => exact ⟨error, isLeast, rfl⟩
    | none =>
        obtain ⟨entity, found⟩ := (store.mem_names_iff _ _).mp isLeast.listed
        exact absurd ⟨least, isLeast, fault, found⟩ (nobody entity)
  · exact .inl fun name listed occurs => somewhere ⟨name, listed, occurs⟩

/-! ## One strategy after another -/

/-- Look-ups that leave the catalog alone are tried until one finds an entity. -/
theorem firstFound_eq_findSome?
    {σ : Type}
    {context : Context σ}
    {pattern : String}
    {state : σ}
    (leaves : ∀ strategy : OwnerStrategy, (strategy.lookup context pattern state).2 = state)
    (strategies : List OwnerStrategy) :
    firstFound context pattern strategies state =
      (strategies.findSome? fun strategy =>
        (strategy.lookup context pattern state).1.toOption.join, state) := by
  induction strategies with
  | nil => rfl
  | cons strategy later inductionHypothesis =>
      have left := leaves strategy
      rw [firstFound, List.findSome?_cons]
      dsimp only
      revert left
      rcases strategy.lookup context pattern state with ⟨error | (_ | reference), after⟩
      · rintro ⟨⟩
        exact inductionHypothesis
      · rintro ⟨⟩
        exact inductionHypothesis
      · rintro ⟨⟩
        rfl

theorem toOption_join_eq_some_iff
    {ε α : Type}
    {answer : Except ε (Option α)}
    {found : α} :
    answer.toOption.join = some found ↔ answer = .ok (some found) := by
  rcases answer with error | (_ | other) <;> simp [Except.toOption]

section InMemory

variable
  (service : String)
  (store : Store)
  {owner : String}
  (starless : '*' ∉ owner.toList)

include starless

/-- What a strategy contributes on the in-memory catalog is the reference to what it finds. -/
theorem contribution_eq_some_iff
    (strategy : OwnerStrategy)
    (reference : EntityReference) :
    (strategy.lookup (.inMemory service) (containing owner) store).1.toOption.join =
        some reference ↔
      ∃ entity, strategy.Finds store owner entity ∧ entity.reference = reference := by
  rw [toOption_join_eq_some_iff, lookup_eq_some_iff strategy service store starless]

theorem contribution_eq_none_iff
    (strategy : OwnerStrategy) :
    (strategy.lookup (.inMemory service) (containing owner) store).1.toOption.join = none ↔
      ∀ entity, ¬ strategy.Finds store owner entity := by
  simp only [Option.eq_none_iff_forall_ne_some, ne_eq,
    contribution_eq_some_iff service store starless]
  exact ⟨fun missed entity found => missed entity.reference ⟨entity, found, rfl⟩,
    fun nobody reference ⟨entity, found, _⟩ => nobody entity found⟩

/-- The first strategy that finds an entity decides. -/
theorem resolve_eq_some_iff
    (strategies : List OwnerStrategy)
    (reference : EntityReference) :
    (resolve strategies (.inMemory service) owner store).1 = some reference ↔
      ∃ before strategy after entity, strategies = before ++ strategy :: after ∧
        (∀ earlier ∈ before, ∀ other, ¬ earlier.Finds store owner other) ∧
        strategy.Finds store owner entity ∧ reference = entity.reference := by
  rw [resolve, firstFound_eq_findSome? fun strategy => by rw [lookup_inMemory],
    List.findSome?_eq_some_iff]
  simp only [contribution_eq_some_iff service store starless,
    contribution_eq_none_iff service store starless]
  constructor
  · rintro ⟨before, strategy, after, split, ⟨entity, found, rfl⟩, nobody⟩
    exact ⟨before, strategy, after, entity, split, nobody, found, rfl⟩
  · rintro ⟨before, strategy, after, entity, split, nobody, found, rfl⟩
    exact ⟨before, strategy, after, split, ⟨entity, found, rfl⟩, nobody⟩

theorem resolve_eq_none_iff
    (strategies : List OwnerStrategy) :
    (resolve strategies (.inMemory service) owner store).1 = none ↔
      ∀ strategy ∈ strategies, ∀ entity, ¬ strategy.Finds store owner entity := by
  rw [resolve, firstFound_eq_findSome? fun strategy => by rw [lookup_inMemory],
    List.findSome?_eq_none_iff]
  simp only [contribution_eq_none_iff service store starless]

end InMemory

/-- On a sound catalog, what a strategy finds is of the strategy's kind. -/
theorem Finds.kind_eq
    {strategy : OwnerStrategy}
    {store : Store}
    {owner : String}
    {entity : Entity}
    (found : strategy.Finds store owner entity)
    (sound : store.Sound) :
    entity.kind = strategy.kind := by
  obtain ⟨name, -, -, known⟩ := found
  exact (sound.keyed _ _ _ known).1

end OwnerStrategy

/-- Resolving an owner's name without stars on an in-memory catalog, whatever it holds and whichever
faults are set, returns the reference to the entity that the first strategy to find one finds: the
entity with the least name of the strategy's kind in which the owner's name occurs, unless a fault
is set for that name. It returns nothing exactly if no strategy finds an entity. So with users before
teams, a team is returned only if the owner's name occurs in no user's name or a fault is set for
the least one. -/
theorem OwnerStrategy.resolve_by_least_name
    {store : Store}
    (reachable : store.Reachable)
    (service : String)
    {owner : String}
    (starless : '*' ∉ owner.toList) :
    (∀ strategies : List OwnerStrategy,
      let resolved := resolve strategies (.inMemory service) owner store
      resolved.2 = store ∧
        (∀ reference, resolved.1 = some reference ↔
          ∃ before strategy after entity, strategies = before ++ strategy :: after ∧
            (∀ earlier ∈ before, ∀ other, ¬ earlier.Finds store owner other) ∧
            strategy.Finds store owner entity ∧
            reference = ⟨entity.id, strategy.kind.name⟩) ∧
        (resolved.1 = none ↔
          ∀ strategy ∈ strategies, ∀ entity, ¬ strategy.Finds store owner entity)) ∧
      ∀ reference, (resolve standard (.inMemory service) owner store).1 = some reference →
        reference.type = EntityKind.team.name →
          (∀ name ∈ store.names .user, ¬ owner.toList <:+: name.toList) ∨
            ∃ name error, store.IsLeastWith .user owner name ∧
              store.faults.get? name = some error := by
  have typed : ∀ {strategy : OwnerStrategy} {entity}, strategy.Finds store owner entity →
      entity.reference = ⟨entity.id, strategy.kind.name⟩ := by
    intro strategy entity found
    rw [Entity.reference, EntityReference.ofKind, found.kind_eq reachable.sound]
  refine ⟨fun strategies => ⟨?_, fun reference => ?_, ?_⟩, fun reference resolved isTeam => ?_⟩
  · rw [resolve, firstFound_eq_findSome? fun strategy => by rw [lookup_inMemory]]
  · rw [resolve_eq_some_iff service store starless]
    constructor
    · rintro ⟨before, strategy, after, entity, split, nobody, found, rfl⟩
      exact ⟨before, strategy, after, entity, split, nobody, found, typed found⟩
    · rintro ⟨before, strategy, after, entity, split, nobody, found, rfl⟩
      exact ⟨before, strategy, after, entity, split, nobody, found, (typed found).symm⟩
  · exact resolve_eq_none_iff service store starless strategies
  · obtain ⟨before, strategy, after, entity, split, nobody, found, rfl⟩ :=
      (resolve_eq_some_iff service store starless standard reference).mp resolved
    cases before with
    | nil =>
        -- The users come first, so the reference would be to a user.
        cases split
        rw [typed found] at isTeam
        have sameNames : EntityKind.user.name = EntityKind.team.name := isTeam
        exact absurd sameNames (by decide)
    | cons first others =>
        obtain ⟨rfl, -⟩ := List.cons.inj split
        exact of_finds_nobody (nobody .user List.mem_cons_self)

/-- A catalog with two users and a team called alice, and a fault for the lesser user. -/
def Store.Origin.alices : Store.Origin :=
  .built [(.user, "dr.alice"), (.user, "alice"), (.team, "alice-team")]
    [("alice", ⟨.permissionDenied, "users"⟩)]

/-- The fault for the least user's name leads to the team, past the greater user's name. -/
theorem OwnerStrategy.resolve_by_least_name_past_fault :
    let store := Store.Origin.alices.store 0
    store.Reachable ∧ '*' ∉ "alice".toList ∧
      (resolve standard (.inMemory "svc") "alice" store).1 = some ⟨.ofNumber 2, "team"⟩ ∧
      (∀ entity, ¬ user.Finds store "alice" entity) ∧
      ∃ name error, store.IsLeastWith .user "alice" name ∧
        store.faults.get? name = some error := by
  intro store
  have reachable : store.Reachable := ⟨.alices, 0, [], rfl⟩
  have starless : '*' ∉ "alice".toList := by decide
  have resolved : (resolve standard (.inMemory "svc") "alice" store).1 =
      some ⟨.ofNumber 2, "team"⟩ := by decide +kernel
  have unresolved : (resolve [user] (.inMemory "svc") "alice" store).1 = none := by
    decide +kernel
  obtain ⟨strategies, teams⟩ := resolve_by_least_name reachable "svc" starless
  have noUser := (strategies [user]).2.2.mp unresolved user List.mem_cons_self
  refine ⟨reachable, starless, resolved, noUser, ?_⟩
  refine (teams _ resolved rfl).resolve_left fun nowhere => ?_
  exact nowhere "alice" (by decide +kernel) (List.infix_refl _)

end CatalogIngest
