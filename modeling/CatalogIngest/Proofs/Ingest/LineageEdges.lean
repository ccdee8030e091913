import CatalogIngest.Proofs.Catalog.Registration
import CatalogIngest.Proofs.Ingest.InMemory
import CatalogIngest.Proofs.Ingest.Undisturbed

/-!
# Lineage on the in-memory catalog

The in-memory catalog takes every edge, and edges do not change what look-ups find. So the edges of
a run are those of the pairs of tables that look-ups find at its start.
-/

namespace CatalogIngest
namespace Store

/-- A catalog with the entities and the faults of another one answers look-ups like it; it also
registers entities like it. -/
structure AnswersLike (store model : Store) : Prop where
  entities : store.entities = model.entities
  faults : store.faults = model.faults
  nextNumber : store.nextNumber = model.nextNumber

namespace AnswersLike

theorem refl (store : Store) : store.AnswersLike store := ⟨rfl, rfl, rfl⟩

theorem trans
    {first second third : Store}
    (left : first.AnswersLike second)
    (right : second.AnswersLike third) :
    first.AnswersLike third :=
  ⟨left.entities.trans right.entities, left.faults.trans right.faults,
    left.nextNumber.trans right.nextNumber⟩

variable {store model : Store} (alike : store.AnswersLike model)

include alike

theorem entity? : store.entity? = model.entity? := by
  funext kind fullName
  unfold Store.entity?
  rw [alike.entities]

theorem contains : store.contains = model.contains := by
  funext kind fullName
  unfold Store.contains
  rw [alike.entity?]

theorem lookup : store.lookup = model.lookup := by
  funext kind fullName
  unfold Store.lookup
  rw [alike.faults, alike.entity?]

theorem names : store.names = model.names := by
  funext kind
  unfold Store.names
  rw [alike.entities]

theorem referenceTo? : store.referenceTo? = model.referenceTo? := by
  funext kind fullName
  unfold Store.referenceTo?
  rw [alike.entity?]

theorem addEntity
    (kind : EntityKind)
    (fullName : String) :
    (store.addEntity kind fullName).2.AnswersLike (model.addEntity kind fullName).2 := by
  unfold Store.addEntity
  rw [alike.entity?, alike.nextNumber, alike.entities]
  cases model.entity? kind fullName with
  | some entity => exact alike
  | none => exact ⟨rfl, alike.faults, rfl⟩

omit alike in
theorem addEach
    {store model : Store}
    (alike : store.AnswersLike model)
    (entries : List (EntityKind × String)) :
    (store.addEach entries).AnswersLike (model.addEach entries) := by
  induction entries generalizing store model with
  | nil => exact alike
  | cons entry later inductionHypothesis =>
      exact inductionHypothesis (alike.addEntity entry.1 entry.2)

end AnswersLike

theorem answersLike_addLineage
    (store : Store)
    (request : LineageRequest) :
    (store.addLineage request).AnswersLike store := by
  unfold addLineage
  split <;> exact ⟨rfl, rfl, rfl⟩

/-- The request for the edge of a pair, if look-ups find both its tables. -/
def edgeOf (store : Store) (pair : LineagePair) : Option LineageRequest :=
  (store.found? .table pair.parent).bind fun source =>
    (store.found? .table pair.model).map fun target =>
      ⟨⟨.ofKind source.id .table, .ofKind target.id .table⟩⟩

end Store

namespace Context

/-- The outcome of looking an entity up that must exist, with the in-memory catalog. -/
theorem run_requireEntity
    (service : String)
    (kind : EntityKind)
    (name : String)
    (stage : Stage)
    (subject : String)
    (store : Store) :
    ((inMemory service).requireEntity kind name stage subject).run store =
      (orFail stage subject (kind.name ++ " '" ++ name ++ "' not found")
        (store.lookup kind name), store) := rfl

theorem orFail_lookup_cases
    (store : Store)
    (kind : EntityKind)
    (name : String)
    (stage : Stage)
    (subject missing : String) :
    (∃ entity, store.found? kind name = some entity ∧
        orFail stage subject missing (store.lookup kind name) = .ok entity) ∨
      (store.found? kind name = none ∧
        ∃ failure, orFail stage subject missing (store.lookup kind name) = .error failure ∧
          (store.faults.get? name = none → failure = .miss stage subject missing)) := by
  unfold Store.found? Store.lookup
  cases store.faults.get? name with
  | some error => exact .inr ⟨rfl, _, rfl, fun unfaulted => nomatch unfaulted⟩
  | none =>
      cases store.entity? kind name with
      | none => exact .inr ⟨rfl, _, rfl, fun _ => rfl⟩
      | some entity => exact .inl ⟨entity, rfl, rfl⟩

end Context

namespace LineagePair

/-- The outcome of the request for a pair, with the in-memory catalog. -/
def outcomeIn (pair : LineagePair) (service : String) (store : Store) :
    Except Failure LineageRequest :=
  ((pair.request (Context.inMemory service)).run store).1

theorem outcomeIn_of_answersLike
    (pair : LineagePair)
    (service : String)
    {store model : Store}
    (alike : store.AnswersLike model) :
    pair.outcomeIn service store = pair.outcomeIn service model := by
  unfold outcomeIn request
  rw [Attempt.run_bind, Attempt.run_bind, Context.run_requireEntity, Context.run_requireEntity,
    alike.lookup]
  cases Context.orFail Stage.lineage pair.subject
      (EntityKind.table.name ++ " '" ++ pair.parent ++ "' not found")
      (model.lookup .table pair.parent) with
  | error failure => rfl
  | ok source =>
      dsimp only
      rw [Attempt.run_bind, Attempt.run_bind, Context.run_requireEntity,
        Context.run_requireEntity, alike.lookup]
      cases Context.orFail Stage.lineage pair.subject
          (EntityKind.table.name ++ " '" ++ pair.model ++ "' not found")
          (model.lookup .table pair.model) <;> rfl

/-- A pair leads to the request for its edge, or to a failure; without faults the failure says which
table is missing. -/
theorem outcomeIn_cases
    (pair : LineagePair)
    (service : String)
    (store : Store) :
    (∃ request, store.edgeOf pair = some request ∧
        pair.outcomeIn service store = .ok request) ∨
      (store.edgeOf pair = none ∧ ∃ failure, pair.outcomeIn service store = .error failure ∧
        (store.faults.get? pair.parent = none → store.found? .table pair.model ≠ none →
          failure =
            .miss .lineage pair.subject ("table '" ++ pair.parent ++ "' not found"))) := by
  unfold outcomeIn Store.edgeOf request
  rw [Attempt.run_bind, Context.run_requireEntity]
  obtain ⟨source, sourceFound, sourceKnown⟩ | ⟨sourceMissing, failure, failed, named⟩ :=
    Context.orFail_lookup_cases store .table pair.parent .lineage pair.subject
      (EntityKind.table.name ++ " '" ++ pair.parent ++ "' not found")
  · rw [sourceFound, sourceKnown]
    dsimp only
    rw [Attempt.run_bind, Context.run_requireEntity]
    obtain ⟨target, targetFound, targetKnown⟩ | ⟨targetMissing, failure, failed, -⟩ :=
      Context.orFail_lookup_cases store .table pair.model .lineage pair.subject
        (EntityKind.table.name ++ " '" ++ pair.model ++ "' not found")
    · rw [targetFound, targetKnown]
      exact .inl ⟨_, rfl, rfl⟩
    · rw [targetMissing, failed]
      exact .inr ⟨rfl, failure, rfl, fun _ present => absurd rfl present⟩
  · rw [sourceMissing, failed]
    exact .inr ⟨rfl, failure, rfl, fun unfaulted _ => named unfaulted⟩

end LineagePair

namespace Run

variable {run : Run Store} {service : String}

/-- Lineage requests do not disturb each other. -/
theorem lineage_undisturbed
    (inMemory : run.context = .inMemory service)
    (store : Store) :
    LazySequence.Undisturbed (fun current _ _ _ => current.AnswersLike store) store
      run.lineage.work Store.sink.deliverLineage where
  asks _ pair current := by
    change ((pair.request run.context).run current).2 = current
    rw [inMemory]
    exact pair.leaves_request service current
  alike current _ pair _ alike := by
    change ([((pair.request run.context).run current).1], ()) =
      ([((pair.request run.context).run store).1], ())
    rw [inMemory]
    exact congrArg (fun outcome => ([outcome], ())) (pair.outcomeIn_of_answersLike service alike)
  jobsKeep current _ pair _ alike := by
    change ((pair.request run.context).run current).2.AnswersLike store
    rw [inMemory, pair.leaves_request service current]
    exact alike
  consumerKeeps current _ item _ _ alike := by
    cases item with
    | error failure => exact alike
    | ok request => exact (current.answersLike_addLineage request).trans alike

theorem decides_deliverLineage :
    Decides Store.sink.deliverLineage (fun _ => True) fun _ => none where
  kept _ _ _ := trivial
  decided _ _ _ := rfl

theorem items_lineage
    (inMemory : run.context = .inMemory service)
    (store : Store) :
    (LazySequence.runJobs run.lineage.work () (LineagePair.ofModels run.models) store).1.1 =
      (LineagePair.ofModels run.models).map (·.outcomeIn service store) := by
  rw [LazySequence.items_runJobs_of_forgetful _ (lineage_undisturbed inMemory store).asks,
    List.map_eq_flatMap]
  congr 1
  funext pair
  change [((pair.request run.context).run store).1] = _
  rw [inMemory]
  rfl

/-- The requests of pairs are those for the edges between tables that look-ups find. -/
theorem successes_outcomes
    (pairs : List LineagePair)
    (service : String)
    (store : Store) :
    successes (pairs.map (·.outcomeIn service store)) = pairs.filterMap store.edgeOf := by
  rw [successes_map]
  apply List.filterMap_congr
  intro pair _
  obtain ⟨request, found, outcome⟩ | ⟨missing, failure, outcome, -⟩ :=
    pair.outcomeIn_cases service store
  · rw [outcome, found, Except.toOption]
  · rw [outcome, missing, Except.toOption]

/-- What comes of forwarding lineage. -/
theorem forward_lineage
    (inMemory : run.context = .inMemory service)
    (report : Report)
    (store : Store) :
    let pairs := LineagePair.ofModels run.models
    let forwarded := run.lineage.forward Store.sink.deliverLineage report store
    forwarded.1.1 = pairs.filterMap store.edgeOf ∧
      forwarded.1.2 =
        report.recordAll (failuresAmong (pairs.map (·.outcomeIn service store))) ∧
      forwarded.2.AnswersLike store := by
  intro pairs forwarded
  have undisturbed := lineage_undisturbed inMemory store
  obtain ⟨same, reached⟩ := undisturbed.forward_eq decides_deliverLineage () pairs report
    (.refl store) trivial
  rw [items_lineage inMemory] at same reached
  rw [acceptedAmong_of_taking, filterMap_failureOf_of_taking, successes_outcomes] at same
  have whole : forwarded = _ := same
  rw [whole]
  exact ⟨rfl, rfl, reached⟩

end Run
end CatalogIngest
