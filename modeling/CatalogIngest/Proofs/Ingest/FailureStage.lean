import CatalogIngest.Ingest.Run
import CatalogIngest.Proofs.Ingest.InMemory
import CatalogIngest.Proofs.Ingest.ModelCoverage
import CatalogIngest.Proofs.Ingest.Settlement

/-!
# The stage of a failure

Whatever the collaborators of a run answer, a failure bears the stage in which it is met: merging,
resolving, lineage, setup, cases or results.
-/

namespace CatalogIngest

variable {σ α β : Type}

/-- An outcome is a success or a failure of a stage. -/
def FailsOnlyAt (stage : Stage) (outcome : Except Failure α) : Prop :=
  ∀ failure, outcome = .error failure → failure.stage = stage

theorem failsOnlyAt_ok
    (stage : Stage)
    (item : α) :
    FailsOnlyAt stage (.ok item : Except Failure α) :=
  fun _ same => nomatch same

theorem failsOnlyAt_error
    {stage : Stage}
    {failure : Failure}
    (labelled : failure.stage = stage) :
    FailsOnlyAt stage (.error failure : Except Failure α) := by
  rintro _ ⟨⟩
  exact labelled

/-- What a computation ends in is, from every state, a success or a failure of a stage. -/
def Attempt.FailsOnlyAt (stage : Stage) (attempt : Attempt σ α) : Prop :=
  ∀ state, CatalogIngest.FailsOnlyAt stage (attempt.run state).1

theorem FailsOnlyAt.map
    {stage : Stage}
    {outcome : Except Failure α}
    (labelled : FailsOnlyAt stage outcome)
    (transform : α → β) :
    FailsOnlyAt stage (outcome.map transform) := by
  cases outcome with
  | error failure => exact failsOnlyAt_error (labelled failure rfl)
  | ok item => exact failsOnlyAt_ok stage (transform item)

theorem Attempt.failsOnlyAt_bind
    {stage : Stage}
    {attempt : Attempt σ α}
    {next : α → Attempt σ β}
    (first : Attempt.FailsOnlyAt stage attempt)
    (second : ∀ value, Attempt.FailsOnlyAt stage (next value)) :
    Attempt.FailsOnlyAt stage (attempt >>= next) := by
  intro state
  have labelled := first state
  rw [run_bind]
  revert labelled
  rcases attempt.run state with ⟨failure | value, after⟩
  · exact fun labelled => failsOnlyAt_error (labelled failure rfl)
  · exact fun _ => second value after

theorem Attempt.failsOnlyAt_pure
    (stage : Stage)
    (value : α) :
    Attempt.FailsOnlyAt stage (pure value : Attempt σ α) :=
  fun _ => failsOnlyAt_ok stage value

namespace Context

theorem failsOnlyAt_orFail
    (stage : Stage)
    (subject missing : String)
    (answer : Except CatalogError (Option α)) :
    FailsOnlyAt stage (orFail stage subject missing answer) := by
  rcases answer with error | (_ | found)
  · exact failsOnlyAt_error rfl
  · exact failsOnlyAt_error rfl
  · exact failsOnlyAt_ok stage found

theorem failsOnlyAt_requireName
    (context : Context σ)
    (request : NameRequest)
    (stage : Stage)
    (subject : String) :
    Attempt.FailsOnlyAt stage (context.requireName request stage subject) :=
  fun _ => failsOnlyAt_orFail stage subject _ _

theorem failsOnlyAt_requireEntity
    (context : Context σ)
    (kind : EntityKind)
    (name : String)
    (stage : Stage)
    (subject : String) :
    Attempt.FailsOnlyAt stage (context.requireEntity kind name stage subject) :=
  fun _ => failsOnlyAt_orFail stage subject _ _

end Context

/-- The outcomes of computations that fail at one stage only fail at that stage. -/
theorem failsOnlyAt_of_mem_outcomesOf
    {stage : Stage}
    {attempts : List (Attempt σ α)}
    (labelled : ∀ attempt ∈ attempts, Attempt.FailsOnlyAt stage attempt)
    {state : σ}
    {outcome : Except Failure α}
    (member : outcome ∈ (outcomesOf attempts state).1) :
    FailsOnlyAt stage outcome := by
  obtain ⟨attempt, attempted, before, rfl⟩ := mem_outcomesOf member
  exact labelled attempt attempted before

theorem stage_of_mem_failuresAmong
    {stage : Stage}
    {outcomes : List (Except Failure α)}
    (labelled : ∀ outcome ∈ outcomes, FailsOnlyAt stage outcome)
    {failure : Failure}
    (member : failure ∈ failuresAmong outcomes) :
    failure.stage = stage := by
  obtain ⟨outcome, inside, same⟩ := List.mem_filterMap.mp member
  cases outcome with
  | ok item => nomatch same
  | error other =>
      cases same
      exact labelled _ inside failure rfl

/-- When the items of a sequence only fail at the stage of their receiver, so do all failures that are
recorded. -/
theorem Settles.stage_of_mem_failures
    {ι μ : Type}
    {receiver : Receiver σ α β}
    {sequence : LazySequence σ ι μ (Except Failure α)}
    {state final : σ}
    {settlements : List (Settlement α)}
    (settles : Settles receiver sequence state settlements final)
    (yields : sequence.Yields (FailsOnlyAt receiver.stage)) :
    ∀ failure ∈ Settlement.failures receiver settlements, failure.stage = receiver.stage := by
  intro failure member
  obtain ⟨settlement, settled, failed⟩ := List.mem_filterMap.mp member
  have labelled := settles.forall_yielded yields settlement settled
  cases settlement with
  | failed own =>
      have same : own = failure := Option.some.inj failed
      rw [← same]
      exact labelled own rfl
  | accepted item => nomatch failed
  | refused item error =>
      cases failed
      rfl

/-! ## Preparing a run -/

theorem MergedArtifacts.stage_of_mem_malformed
    {artifact : String}
    {decode : Json.Decoder α}
    {raw : SortedMap Json.Value}
    {failure : Failure}
    (member : failure ∈ malformed artifact decode raw) :
    failure.stage = .merge := by
  obtain ⟨entry, -, same⟩ := List.mem_filterMap.mp member
  cases decoded : decode .direct entry.2 with
  | ok value =>
      rw [decoded] at same
      nomatch same
  | error error =>
      rw [decoded] at same
      cases same
      rfl

theorem MergedArtifacts.stage_of_mem_failures
    (manifest : Manifest)
    (catalog : CatalogArtifact) :
    ∀ failure ∈ (MergedArtifacts.of manifest catalog).failures, failure.stage = .merge := by
  intro failure member
  rcases List.mem_append.mp member with member | member
  · exact stage_of_mem_malformed member
  · exact stage_of_mem_malformed member

namespace ModelResolver

theorem stage_of_mem_columns
    (resolver : ModelResolver σ)
    (node : ManifestNode)
    (relation : Option CatalogNode) :
    ∀ failure ∈ (resolver.columns node relation).2, failure.stage = .dataModel := by
  cases relation with
  | none => exact List.forall_mem_nil _
  | some relation =>
      intro failure member
      refine stage_of_mem_failuresAmong (fun outcome inside => ?_) member
      obtain ⟨⟨name, found⟩, -, rfl⟩ := List.mem_map.mp inside
      cases found with
      | ok found => exact failsOnlyAt_ok _ _
      | error error => exact failsOnlyAt_error rfl

theorem failsOnlyAt_parentName
    (resolver : ModelResolver σ)
    (node : ManifestNode)
    (dependency : String) :
    Attempt.FailsOnlyAt .dataModel (resolver.parentName node dependency) := by
  unfold parentName
  cases resolver.artifacts.manifest.get? dependency with
  | none => exact fun _ => failsOnlyAt_error rfl
  | some parent => exact Context.failsOnlyAt_requireName _ _ _ _

/-- A node that is resolved only contributes failures of resolving. -/
theorem stage_of_mem_resolveNode
    (resolver : ModelResolver σ)
    (key : String)
    (node : ManifestNode)
    (state : σ) :
    let outcome := (resolver.resolveNode key node state).1
    (∀ failure ∈ outcome.failures, failure.stage = .dataModel) ∧
      FailsOnlyAt .dataModel outcome.model := by
  refine ⟨fun failure member => ?_, ?_⟩
  · rcases List.mem_append.mp member with member | member
    · exact resolver.stage_of_mem_columns node _ failure member
    · refine stage_of_mem_failuresAmong (fun outcome inside => ?_) member
      refine failsOnlyAt_of_mem_outcomesOf (fun attempt attempted => ?_) inside
      obtain ⟨dependency, -, rfl⟩ := List.mem_map.mp attempted
      exact resolver.failsOnlyAt_parentName node dependency
  · exact (Context.failsOnlyAt_requireName _ _ _ _ _).map _

theorem stage_of_mem_addOutcome
    {resolved : ResolvedModels}
    {outcome : NodeOutcome}
    (before : ∀ failure ∈ resolved.failures, failure.stage = .dataModel)
    (contributed : ∀ failure ∈ outcome.failures, failure.stage = .dataModel)
    (modelled : FailsOnlyAt .dataModel outcome.model) :
    ∀ failure ∈ (addOutcome resolved outcome).failures, failure.stage = .dataModel := by
  unfold addOutcome
  cases model : outcome.model with
  | ok found =>
      intro failure member
      rcases List.mem_append.mp member with member | member
      · exact before failure member
      · exact contributed failure member
  | error last =>
      intro failure member
      simp only [List.mem_append, List.mem_singleton] at member
      rcases member with (member | member) | rfl
      · exact before failure member
      · exact contributed failure member
      · exact modelled failure model

theorem stage_of_mem_resolveNodes
    (resolver : ModelResolver σ)
    (entries : List (String × ManifestNode))
    (resolved : ResolvedModels)
    (before : ∀ failure ∈ resolved.failures, failure.stage = .dataModel)
    (state : σ) :
    ∀ failure ∈ (resolver.resolveNodes entries resolved state).1.failures,
      failure.stage = .dataModel := by
  induction entries generalizing resolved state with
  | nil => exact before
  | cons entry later inductionHypothesis =>
      rw [resolveNodes]
      dsimp only
      split
      · exact inductionHypothesis resolved before state
      · obtain ⟨contributed, modelled⟩ :=
          resolver.stage_of_mem_resolveNode entry.1 entry.2 state
        exact inductionHypothesis _ (stage_of_mem_addOutcome before contributed modelled) _

end ModelResolver

/-! ## The stages of a run -/

theorem LineagePair.failsOnlyAt_request
    (context : Context σ)
    (pair : LineagePair) :
    Attempt.FailsOnlyAt .lineage (pair.request context) := by
  unfold request
  apply Attempt.failsOnlyAt_bind
  · exact Context.failsOnlyAt_requireEntity _ _ _ _ _
  · intro source
    apply Attempt.failsOnlyAt_bind
    · exact Context.failsOnlyAt_requireEntity _ _ _ _ _
    · intro target
      exact Attempt.failsOnlyAt_pure _ _

theorem lineage_yields
    (context : Context σ)
    (models : SortedMap DataModel) :
    (lineageSequence context models).Yields (FailsOnlyAt .lineage) where
  ready := List.forall_mem_nil _
  jobs _ pair state := by
    intro item member
    cases List.mem_singleton.mp member
    exact pair.failsOnlyAt_request context state

namespace TestSetup

theorem failsOnlyAt_of_turn
    {kind : SetupKind}
    {entry : String × ManifestNode}
    {seen seenAfter : List String}
    {asks : List PassEvent}
    {items : Batch}
    (turn : Turn kind entry seen asks items seenAfter) :
    ∀ item ∈ items, FailsOnlyAt .testSetup item := by
  cases turn with
  | settled known => exact List.forall_mem_nil _
  | existing fresh entity => exact List.forall_mem_nil _
  | refused fresh error => exact List.forall_mem_singleton.mpr (failsOnlyAt_error rfl)
  | requested fresh request made =>
      exact List.forall_mem_singleton.mpr (failsOnlyAt_ok _ _)
  | malformed fresh failure unmade =>
      refine List.forall_mem_singleton.mpr (failsOnlyAt_error ?_)
      cases kind with
      | suite => cases unmade
      | definition =>
          obtain ⟨wanted, known, -⟩ | ⟨message, failed⟩ :=
            SetupKind.definitionRequest_cases entry.2 entry.1
          · rw [SetupKind.requestFor, known] at unmade
            cases unmade
          · rw [SetupKind.requestFor, failed] at unmade
            cases unmade
            rfl

theorem failsOnlyAt_of_mem_turnItems
    (context : Context σ)
    {kind : SetupKind}
    {entry : String × ManifestNode}
    {seen : List String}
    {state : σ}
    {item : Except Failure SetupRequest}
    (member : item ∈ (turnItems context kind entry seen state).1.1) :
    FailsOnlyAt .testSetup item := by
  obtain ⟨asks, -, turn⟩ := turn_of_turnItems context kind entry seen ⟨state, []⟩
  rw [(turnItems_view context kind entry seen ⟨state, []⟩).1] at turn
  exact failsOnlyAt_of_turn turn item member

end TestSetup

theorem setup_yields
    (context : Context σ)
    (tests : SortedMap ManifestNode) :
    (setupSequence context tests).Yields (FailsOnlyAt .testSetup) where
  ready := List.forall_mem_nil _
  jobs seen entry state := by
    intro item member
    change item ∈ (TestSetup.nodeItems context seen entry state).1.1 at member
    rw [TestSetup.nodeItems_eq_turns] at member
    rcases List.mem_append.mp member with member | member
    · exact TestSetup.failsOnlyAt_of_mem_turnItems context member
    · exact TestSetup.failsOnlyAt_of_mem_turnItems context member

namespace TestMapping

theorem failsOnlyAt_dependency
    (artifacts : MergedArtifacts)
    (id : String)
    (stage : Stage)
    (subject : String) :
    FailsOnlyAt stage (artifacts.dependency id stage subject) := by
  unfold MergedArtifacts.dependency
  cases artifacts.manifest.get? id with
  | some node => exact failsOnlyAt_ok _ _
  | none => exact failsOnlyAt_error rfl

theorem failsOnlyAt_requireMetadata
    (node : ManifestNode)
    (key : String)
    (stage : Stage) :
    FailsOnlyAt stage (node.requireMetadata key stage) := by
  unfold ManifestNode.requireMetadata
  cases node.testMetadata with
  | some metadata => exact failsOnlyAt_ok _ _
  | none => exact failsOnlyAt_error rfl

theorem failsOnlyAt_caseParts
    (mapping : TestMapping σ)
    (key : String)
    (test : ManifestNode) :
    Attempt.FailsOnlyAt .testCase (mapping.caseParts key test) := by
  unfold caseParts
  apply Attempt.failsOnlyAt_bind
  · exact fun _ => failsOnlyAt_requireMetadata test key .testCase
  · intro metadata
    apply Attempt.failsOnlyAt_bind
    · exact Context.failsOnlyAt_requireEntity _ _ _ _ _
    · intro definition
      apply Attempt.failsOnlyAt_bind
      · exact Context.failsOnlyAt_requireEntity _ _ _ _ _
      · intro suite
        exact Attempt.failsOnlyAt_pure _ _

theorem failsOnlyAt_caseOn
    (mapping : TestMapping σ)
    (key : String)
    (test : ManifestNode)
    (parts : CaseParts)
    (id : String) :
    Attempt.FailsOnlyAt .testCase (mapping.caseOn key test parts id) := by
  unfold caseOn
  apply Attempt.failsOnlyAt_bind
  · exact fun _ => failsOnlyAt_dependency mapping.artifacts id .testCase key
  · intro node
    apply Attempt.failsOnlyAt_bind
    · exact Context.failsOnlyAt_requireName _ _ _ _
    · intro table
      exact Attempt.failsOnlyAt_pure _ _

theorem failsOnlyAt_of_mem_caseItems
    (mapping : TestMapping σ)
    (entry : String × ManifestNode)
    (state : σ) :
    ∀ item ∈ (mapping.caseItems entry state).1, FailsOnlyAt .testCase item := by
  have labelled := mapping.failsOnlyAt_caseParts entry.1 entry.2 state
  unfold caseItems
  revert labelled
  rcases (mapping.caseParts entry.1 entry.2).run state with ⟨failure | parts, after⟩
  · exact fun labelled =>
      List.forall_mem_singleton.mpr (failsOnlyAt_error (labelled failure rfl))
  · intro _ item member
    refine failsOnlyAt_of_mem_outcomesOf (fun attempt attempted => ?_) member
    obtain ⟨id, -, rfl⟩ := List.mem_map.mp attempted
    exact mapping.failsOnlyAt_caseOn entry.1 entry.2 parts id

theorem cases_yield
    (mapping : TestMapping σ) :
    (CaseSequence.ofMapping mapping).cases.Yields (FailsOnlyAt .testCase) where
  ready := List.forall_mem_nil _
  jobs _ entry state := mapping.failsOnlyAt_of_mem_caseItems entry state

/-! ## Attaching results -/

theorem failsOnlyAt_submitTo
    (mapping : TestMapping σ)
    (subject : String)
    (test : ManifestNode)
    (result : TestResult)
    (id : String) :
    Attempt.FailsOnlyAt .testResult (mapping.submitTo subject test result id) := by
  unfold submitTo
  apply Attempt.failsOnlyAt_bind
  · exact fun _ => failsOnlyAt_dependency mapping.artifacts id .testResult subject
  · intro node
    apply Attempt.failsOnlyAt_bind
    · exact Context.failsOnlyAt_requireName _ _ _ _
    · intro name state
      rw [Attempt.run_mk]
      rcases mapping.context.client.submit name result state with ⟨error | _, after⟩
      · exact failsOnlyAt_error rfl
      · exact failsOnlyAt_ok _ _

theorem failsOnlyAt_of_mem_recordOutcomes
    (mapping : TestMapping σ)
    (record : RunResult)
    (state : σ) :
    ∀ outcome ∈ (mapping.recordOutcomes record state).1, FailsOnlyAt .testResult outcome := by
  unfold recordOutcomes
  cases mapping.tests.get? record.uniqueId with
  | none =>
      cases mapping.isForeign record.uniqueId with
      | true => exact List.forall_mem_nil _
      | false => exact List.forall_mem_singleton.mpr (failsOnlyAt_error rfl)
  | some test =>
      cases record.completedMillis with
      | error text => exact List.forall_mem_singleton.mpr (failsOnlyAt_error rfl)
      | ok timestamp =>
          intro outcome member
          refine failsOnlyAt_of_mem_outcomesOf (fun attempt attempted => ?_) member
          obtain ⟨id, -, rfl⟩ := List.mem_map.mp attempted
          exact mapping.failsOnlyAt_submitTo _ _ _ _

theorem failsOnlyAt_of_mem_entryOutcomes
    (mapping : TestMapping σ)
    (position : Nat)
    (value : Json.Value)
    (state : σ) :
    ∀ outcome ∈ (mapping.entryOutcomes position value state).1,
      FailsOnlyAt .testResult outcome := by
  unfold entryOutcomes
  cases RunResult.decode .direct value with
  | error error => exact List.forall_mem_singleton.mpr (failsOnlyAt_error rfl)
  | ok record => exact mapping.failsOnlyAt_of_mem_recordOutcomes record state

theorem failsOnlyAt_of_mem_outcomesFrom
    (mapping : TestMapping σ)
    (position : Nat)
    (records : List Json.Value)
    (state : σ) :
    ∀ outcome ∈ (mapping.outcomesFrom position records state).1,
      FailsOnlyAt .testResult outcome := by
  induction records generalizing position state with
  | nil => exact List.forall_mem_nil _
  | cons value values inductionHypothesis =>
      intro outcome member
      rcases List.mem_append.mp member with member | member
      · exact mapping.failsOnlyAt_of_mem_entryOutcomes position value state outcome member
      · exact inductionHypothesis (position + 1) _ outcome member

theorem stage_of_mem_attachResults
    (mapping : TestMapping σ)
    (state : σ) :
    ∀ failure ∈ (mapping.attachResults state).1.failures, failure.stage = .testResult := by
  unfold attachResults
  cases mapping.runResults with
  | none => exact List.forall_mem_nil _
  | some runResults =>
      intro failure member
      exact stage_of_mem_failuresAmong
        (mapping.failsOnlyAt_of_mem_outcomesFrom 0 runResults.results state) member

end TestMapping
end CatalogIngest
