import CatalogIngest.Proofs.Ingest.CasePolling
import CatalogIngest.Proofs.Ingest.ResultClasses

/-!
# Cases come before results

Each test gives a batch of case items, prepared when the first of them is asked for. The log of a
run whose cases are asked for shows batch after batch and item after item; behind the last item of
the last batch it shows the calls that attach results, and then nothing but askers in vain.
-/

namespace CatalogIngest

/-! ## The batch of one test -/

/-- The items of one test, and the calls that were made to prepare them. -/
structure CaseBatch where
  calls : List MappingEvent
  items : List (Except Failure CaseRequest)

/-- A batch is prepared, and then its items are handed out. -/
def CaseBatch.events (batch : CaseBatch) : List MappingEvent :=
  batch.calls ++ batch.items.map fun item => .given (some item)

namespace TestMapping

variable {σ : Type}

/-- What the cases of a test share is looked up: the test must have metadata, and its definition and
its suite must be known. -/
inductive FindsParts (key : String) (test : ManifestNode) : Effort CaseParts → Prop
  | noMetadata (absent : test.testMetadata = none) :
      FindsParts key test ⟨[], .error (.shape .testCase key "test node has no test_metadata")⟩
  | noDefinition {metadata : TestMetadata} {calls : List MappingEvent} {failure : Failure}
      (present : test.testMetadata = some metadata)
      (lost : Effort.Requires (.looked .testDefinition test.name) .testCase key
        (EntityKind.testDefinition.name ++ " '" ++ test.name ++ "' not found")
        ⟨calls, .error failure⟩) :
      FindsParts key test ⟨calls, .error failure⟩
  | noSuite {metadata : TestMetadata} {earlier later : List MappingEvent} {definition : Entity}
      {failure : Failure}
      (present : test.testMetadata = some metadata)
      (defined : Effort.Requires (.looked .testDefinition test.name) .testCase key
        (EntityKind.testDefinition.name ++ " '" ++ test.name ++ "' not found")
        ⟨earlier, .ok definition⟩)
      (lost : Effort.Requires (.looked .testSuite test.suiteName) .testCase key
        (EntityKind.testSuite.name ++ " '" ++ test.suiteName ++ "' not found")
        ⟨later, .error failure⟩) :
      FindsParts key test ⟨earlier ++ later, .error failure⟩
  | all {metadata : TestMetadata} {earlier later : List MappingEvent} {definition suite : Entity}
      (present : test.testMetadata = some metadata)
      (defined : Effort.Requires (.looked .testDefinition test.name) .testCase key
        (EntityKind.testDefinition.name ++ " '" ++ test.name ++ "' not found")
        ⟨earlier, .ok definition⟩)
      (found : Effort.Requires (.looked .testSuite test.suiteName) .testCase key
        (EntityKind.testSuite.name ++ " '" ++ test.suiteName ++ "' not found")
        ⟨later, .ok suite⟩) :
      FindsParts key test ⟨earlier ++ later, .ok ⟨definition.reference, suite.reference,
        [⟨metadata.name, metadata.parameterText⟩]⟩⟩

/-- The name of the table of a dependency is asked for. -/
abbrev NamesTable (mapping : TestMapping σ) (key id : String) : Effort String → Prop :=
  Effort.Names mapping.artifacts .testCase key
    (fun node => node.address.tableRequest mapping.context.service) id

/-- The case of a test on one of its dependencies is made: the table of the dependency has no name,
or the request links to that table, with the column that the test declares. -/
inductive MakesCase (mapping : TestMapping σ) (key : String) (test : ManifestNode)
    (parts : CaseParts) (id : String) : Effort CaseRequest → Prop
  | unnamed {calls : List MappingEvent} {failure : Failure}
      (nameless : mapping.NamesTable key id ⟨calls, .error failure⟩) :
      MakesCase mapping key test parts id ⟨calls, .error failure⟩
  | requested {calls : List MappingEvent} {table : String}
      (named : mapping.NamesTable key id ⟨calls, .ok table⟩) :
      MakesCase mapping key test parts id
        ⟨calls, .ok
          { name := test.name
            description := test.description.getD ""
            definition := parts.definition
            link := ⟨table, test.declaredColumn⟩
            suite := parts.suite
            parameters := parts.parameters }⟩

/-- The batch of a test is one failure if what its cases share is not found, and otherwise an item
for each of its dependencies, in order. -/
inductive Prepares (mapping : TestMapping σ) (entry : String × ManifestNode) : CaseBatch → Prop
  | lost {calls : List MappingEvent} {failure : Failure}
      (lost : FindsParts entry.1 entry.2 ⟨calls, .error failure⟩) :
      Prepares mapping entry ⟨calls, [.error failure]⟩
  | found {calls : List MappingEvent} {parts : CaseParts} {efforts : List (Effort CaseRequest)}
      (found : FindsParts entry.1 entry.2 ⟨calls, .ok parts⟩)
      (each : List.Forall₂ (mapping.MakesCase entry.1 entry.2 parts) entry.2.dependsOn efforts) :
      Prepares mapping entry
        ⟨calls ++ efforts.flatMap Effort.calls, efforts.map Effort.outcome⟩

theorem FindsParts.questions
    {key : String}
    {test : ManifestNode}
    {effort : Effort CaseParts}
    (finds : FindsParts key test effort) :
    ∀ call ∈ effort.calls, call.isQuestion = true := by
  cases finds with
  | noMetadata absent => exact List.forall_mem_nil _
  | noDefinition present lost => exact lost.questions fun _ => rfl
  | noSuite present defined lost =>
      exact List.forall_mem_append.mpr
        ⟨defined.questions fun _ => rfl, lost.questions fun _ => rfl⟩
  | all present defined found =>
      exact List.forall_mem_append.mpr
        ⟨defined.questions fun _ => rfl, found.questions fun _ => rfl⟩

theorem MakesCase.questions
    {mapping : TestMapping σ}
    {key id : String}
    {test : ManifestNode}
    {parts : CaseParts}
    {effort : Effort CaseRequest}
    (makes : mapping.MakesCase key test parts id effort) :
    ∀ call ∈ effort.calls, call.isQuestion = true := by
  cases makes with
  | unnamed nameless => exact nameless.questions
  | requested named => exact named.questions

/-- Preparing a batch only asks. -/
theorem Prepares.questions
    {mapping : TestMapping σ}
    {entry : String × ManifestNode}
    {batch : CaseBatch}
    (prepares : mapping.Prepares entry batch) :
    ∀ call ∈ batch.calls, call.isQuestion = true := by
  cases prepares with
  | lost lost => exact lost.questions
  | found found each =>
      refine List.forall_mem_append.mpr ⟨found.questions, ?_⟩
      exact List.forall_mem_flatMap.mpr
        (forall_mem_of_forall₂ (fun _ _ makes => makes.questions) each)

end TestMapping

/-! ## Asking with a log -/

/-- Let an asker act, and write down what it was answered. -/
def CaseAsker.logged {σ : Type} (asker : CaseAsker σ) : CaseAsker (Logged σ) :=
  fun answer logged => ⟨asker answer logged.state, logged.events ++ [.given answer]⟩

namespace CaseSequence

variable {σ : Type}

end CaseSequence

end CatalogIngest
