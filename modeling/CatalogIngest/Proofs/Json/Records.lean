import CatalogIngest.DataModel
import CatalogIngest.Name.Request
import CatalogIngest.Proofs.Json.Recovery
import CatalogIngest.Report
import CatalogIngest.TestRequest
import CatalogIngest.TestResult

/-!
# Everything that is written is read back

Models, entities, requests, failures, reports and results are recovered from their JSON form. The
exceptions are links, whose text need not tell the names of the table and the column apart.
-/

namespace CatalogIngest

open Json

/-- A text that may be absent is recovered. -/
theorem Json.Decoder.optionalText_recovers
    (text : Option String) :
    Decoder.string.nullable.Recovers (.ofOption .string text) text :=
  nullable_recovers (fun _ _ => nofun) fun content _ => string_recovers content

/-! ## Entities -/

theorem EntityId.recovers
    (id : EntityId) :
    EntityId.decode.Recovers id.encode id :=
  (Decoder.string_recovers id.text).map rfl

theorem EntityKind.recovers
    (kind : EntityKind) :
    EntityKind.decode.Recovers kind.encode kind :=
  Decoder.choice_recovers (by cases kind <;> rfl)

theorem EntityReference.recovers
    (reference : EntityReference) :
    EntityReference.decode.Recovers reference.encode reference := by
  apply Fields.Recovers.object
  exact Fields.recovers_build EntityReference.mk _
    |>.field rfl (EntityId.recovers reference.id)
    |>.field rfl (Decoder.string_recovers reference.type)

theorem Entity.recovers
    (entity : Entity) :
    Entity.decode.Recovers entity.encode entity := by
  apply Fields.Recovers.object
  exact Fields.recovers_build Entity.mk _
    |>.field rfl (EntityId.recovers entity.id)
    |>.field rfl (EntityKind.recovers entity.kind)
    |>.field rfl (Decoder.string_recovers entity.name)
    |>.field rfl (Decoder.string_recovers entity.fullName)

/-! ## Column types -/

namespace DataType

/-- How many arrays are nested in a type. -/
def nesting : DataType → Nat
  | .array element => element.nesting + 1
  | _ => 0

theorem optionalWord16_recovers
    (word : Option UInt16) :
    Decoder.word16.nullable.Recovers (.ofOption (fun word => .ofNat word.toNat) word) word :=
  Decoder.nullable_recovers (fun _ _ => nofun) fun content _ => Decoder.word16_recovers content

theorem optionalWord32_recovers
    (word : Option UInt32) :
    Decoder.word32.nullable.Recovers (.ofOption (fun word => .ofNat word.toNat) word) word :=
  Decoder.nullable_recovers (fun _ _ => nofun) fun content _ => Decoder.word32_recovers content

/-- A type is recovered within enough levels. -/
theorem decodeWithin_recovers
    (dataType : DataType)
    {levels : Nat}
    (enough : dataType.nesting ≤ levels) :
    (decodeWithin (levels + 1)).Recovers dataType.encode dataType := by
  induction dataType generalizing levels with
  | decimal precision scale =>
      refine Decoder.variants_recovers rfl (by simp) (Fields.Recovers.object ?_ _)
      exact Fields.recovers_build DataType.decimal _
        |>.field rfl (optionalWord16_recovers precision)
        |>.field rfl (optionalWord16_recovers scale)
  | varchar length =>
      refine Decoder.variants_recovers rfl (by simp) (Fields.Recovers.object ?_ _)
      exact Fields.recovers_build DataType.varchar _
        |>.field rfl (optionalWord32_recovers length)
  | char length =>
      refine Decoder.variants_recovers rfl (by simp) (Fields.Recovers.object ?_ _)
      exact Fields.recovers_build DataType.char _
        |>.field rfl (optionalWord32_recovers length)
  | array element inductionHypothesis =>
      obtain ⟨inner, rfl⟩ := Nat.exists_eq_add_one.mpr (Nat.lt_of_lt_of_le (Nat.succ_pos _) enough)
      refine Decoder.variants_recovers rfl (by simp) (Fields.Recovers.object ?_ _)
      exact Fields.recovers_build DataType.array _
        |>.field rfl (inductionHypothesis (Nat.le_of_succ_le_succ enough))
  | _ => exact Decoder.variants_recovers rfl (List.forall_mem_nil _) (Decoder.bare_recovers _)

theorem depth_lt_of_mem
    {members : List (String × Value)}
    {member : String × Value}
    (among : member ∈ members) :
    member.2.depth < (Value.object members).depth := by
  rw [Value.depth, Nat.lt_succ_iff]
  induction members with
  | nil => nomatch among
  | cons first later inductionHypothesis =>
      rw [Value.depthOfMembers]
      rcases List.mem_cons.mp among with rfl | inside
      · exact Nat.le_max_left _ _
      · exact Nat.le_trans (inductionHypothesis inside) (Nat.le_max_right _ _)

/-- Every nested array is a container of its own, in whatever order members are listed. -/
theorem nesting_le_depth
    {dataType : DataType}
    {other : Value}
    (rearranged : dataType.encode.Rearranged other) :
    dataType.nesting ≤ other.depth := by
  induction dataType generalizing other with
  | array element inductionHypothesis =>
      obtain ⟨others, rfl, alike⟩ := rearranged.of_object
      obtain ⟨found, only, sameElement⟩ :=
        alike.find (fun name => decide (name = "element_type")) rfl
      have among : ("element_type", found) ∈ others :=
        (List.mem_filter.mp (only ▸ List.mem_singleton_self _)).1
      exact Nat.lt_of_le_of_lt (inductionHypothesis sameElement) (depth_lt_of_mem among)
  | _ => exact Nat.zero_le _

theorem recovers
    (dataType : DataType) :
    DataType.decode.Recovers dataType.encode dataType :=
  fun source other rearranged =>
    decodeWithin_recovers dataType (nesting_le_depth rearranged) source other rearranged

end DataType

/-! ## Data models -/

theorem Column.recovers
    (column : Column) :
    Column.decode.Recovers column.encode column := by
  apply Fields.Recovers.object
  exact Fields.recovers_build Column.mk _
    |>.field rfl (Decoder.string_recovers column.name)
    |>.field rfl (Decoder.optionalText_recovers column.description)
    |>.field rfl (DataType.recovers column.dataType)
    |>.field rfl (Decoder.word32_recovers column.dataLength)
    |>.field rfl (Decoder.word32_recovers column.position)

theorem ModelType.recovers
    (modelType : ModelType) :
    ModelType.decode.Recovers modelType.encode modelType := by
  cases modelType
  exact Decoder.choice_recovers rfl

theorem DataModel.recovers
    (model : DataModel) :
    DataModel.decode.Recovers model.encode model := by
  apply Fields.Recovers.object
  exact Fields.recovers_build DataModel.mk _
    |>.field rfl (ModelType.recovers model.modelType)
    |>.field rfl (Decoder.optionalText_recovers model.description)
    |>.field rfl (Decoder.string_recovers model.path)
    |>.field rfl (Decoder.string_recovers model.rawSql)
    |>.field rfl (Decoder.string_recovers model.sql)
    |>.field rfl (Decoder.list_recovers fun column _ => Column.recovers column)
    |>.field rfl (Decoder.list_recovers fun parent _ => Decoder.string_recovers parent)
    |>.field rfl (Decoder.nullable_recovers (fun _ _ => nofun)
      fun reference _ => EntityReference.recovers reference)

/-! ## Requests for names -/

theorem NameRequest.recovers
    (request : NameRequest) :
    NameRequest.decode.Recovers request.encode request := by
  cases request with
  | table service database schema name =>
      refine Decoder.variants_recovers rfl (by simp) (Fields.Recovers.object ?_ _)
      exact Fields.recovers_build NameRequest.table _
        |>.field rfl (Decoder.string_recovers service)
        |>.field rfl (Decoder.string_recovers database)
        |>.field rfl (Decoder.string_recovers schema)
        |>.field rfl (Decoder.string_recovers name)
  | dataModel service database schema name =>
      refine Decoder.variants_recovers rfl (by simp) (Fields.Recovers.object ?_ _)
      exact Fields.recovers_build NameRequest.dataModel _
        |>.field rfl (Decoder.string_recovers service)
        |>.field rfl (Decoder.string_recovers database)
        |>.field rfl (Decoder.string_recovers schema)
        |>.field rfl (Decoder.string_recovers name)
  | testCase service database schema name column testName =>
      refine Decoder.variants_recovers rfl (by simp) (Fields.Recovers.object ?_ _)
      exact Fields.recovers_build NameRequest.testCase _
        |>.field rfl (Decoder.string_recovers service)
        |>.field rfl (Decoder.string_recovers database)
        |>.field rfl (Decoder.string_recovers schema)
        |>.field rfl (Decoder.string_recovers name)
        |>.field rfl (Decoder.optionalText_recovers column)
        |>.field rfl (Decoder.string_recovers testName)
  | user pattern =>
      refine Decoder.variants_recovers rfl (by simp) (Fields.Recovers.object ?_ _)
      exact Fields.recovers_build NameRequest.user _
        |>.field rfl (Decoder.string_recovers pattern)
  | team pattern =>
      refine Decoder.variants_recovers rfl (by simp) (Fields.Recovers.object ?_ _)
      exact Fields.recovers_build NameRequest.team _
        |>.field rfl (Decoder.string_recovers pattern)

/-! ## Results of tests -/

theorem TestStatus.recovers
    (status : TestStatus) :
    TestStatus.decode.Recovers status.encode status :=
  Decoder.choice_recovers (by cases status <;> rfl)

theorem ResultValue.recovers
    (value : ResultValue) :
    ResultValue.decode.Recovers value.encode value := by
  apply Fields.Recovers.object
  exact Fields.recovers_build ResultValue.mk _
    |>.field rfl (Decoder.string_recovers value.name)
    |>.field rfl (Decoder.string_recovers value.value)

theorem TestResult.optionalTime_recovers
    (timestamp : Option Int64) :
    Decoder.signed64.nullable.Recovers (.ofOption (fun time => .ofInt time.toInt) timestamp)
      timestamp :=
  Decoder.nullable_recovers (fun _ _ => nofun) fun time _ => Decoder.signed64_recovers time

theorem TestResult.recovers
    (result : TestResult) :
    TestResult.decode.Recovers result.encode result := by
  apply Fields.Recovers.object
  exact Fields.recovers_build TestResult.mk _
    |>.field rfl (optionalTime_recovers result.timestamp)
    |>.field rfl (TestStatus.recovers result.status)
    |>.field rfl (Decoder.list_recovers fun value _ => ResultValue.recovers value)

/-! ## Failures and reports -/

theorem FailureKind.recovers
    (kind : FailureKind) :
    FailureKind.decode.Recovers kind.encode kind :=
  Decoder.choice_recovers (by cases kind <;> rfl)

theorem Stage.recovers
    (stage : Stage) :
    Stage.decode.Recovers stage.encode stage :=
  Decoder.choice_recovers (by cases stage <;> rfl)

theorem Failure.recovers
    (failure : Failure) :
    Failure.decode.Recovers failure.encode failure := by
  apply Fields.Recovers.object
  exact Fields.recovers_build Failure.mk _
    |>.field rfl (Stage.recovers failure.stage)
    |>.field rfl (FailureKind.recovers failure.kind)
    |>.field rfl (Decoder.string_recovers failure.subject)
    |>.field rfl (Decoder.string_recovers failure.message)

theorem ReportVersion.recovers
    (version : ReportVersion) :
    ReportVersion.decode.Recovers version.encode version := by
  apply Fields.Recovers.object
  exact Fields.recovers_build ReportVersion.mk _
    |>.field rfl (Decoder.word32_recovers version.major)
    |>.field rfl (Decoder.word32_recovers version.minor)

namespace Summary

/-- The counts of a run. -/
def counts (summary : Summary) : List Nat :=
  [summary.dataModels, summary.lineageEdges, summary.testSuites, summary.testDefinitions,
    summary.testCases, summary.testResults, summary.failures]

/-- The counts are numbers that a machine word of 64 bits holds. -/
def Countable (summary : Summary) : Prop :=
  ∀ count ∈ summary.counts, count < UInt64.size

theorem recovers
    {summary : Summary}
    (countable : summary.Countable) :
    Summary.decode.Recovers summary.encode summary := by
  simp only [Countable, counts, List.forall_mem_cons] at countable
  obtain ⟨dataModels, lineageEdges, testSuites, testDefinitions, testCases, testResults,
    failures, -⟩ := countable
  apply Fields.Recovers.object
  exact Fields.recovers_build Summary.mk _
    |>.field rfl (Decoder.count_recovers dataModels)
    |>.field rfl (Decoder.count_recovers lineageEdges)
    |>.field rfl (Decoder.count_recovers testSuites)
    |>.field rfl (Decoder.count_recovers testDefinitions)
    |>.field rfl (Decoder.count_recovers testCases)
    |>.field rfl (Decoder.count_recovers testResults)
    |>.field rfl (Decoder.count_recovers failures)

/-- Whatever is read as counts is countable. -/
theorem countable_of_decode
    {source : Source}
    {members : List (String × Value)}
    {summary : Summary}
    (decoded : Summary.decode source (.object members) = .ok summary) :
    summary.Countable := by
  refine Fields.Ensures.of_decode ?_ decoded
  have counted (name : String) (count : Nat)
      (taken : (Field.required name Decoder.count).ofMembers source members = .ok count) :
      count < UInt64.size := by
    obtain ⟨value, read⟩ := Field.decode_of_required rfl taken
    exact Decoder.lt_of_count read
  refine .field (.field (.field (.field (.field (.field (.field (Fields.ensures_build ?_)
    (counted _)) (counted _)) (counted _)) (counted _)) (counted _)) (counted _)) (counted _)
  intro dataModels isDataModels lineageEdges isLineageEdges testSuites isTestSuites
    testDefinitions isTestDefinitions testCases isTestCases testResults isTestResults failures
    isFailures
  simp only [Countable, counts, List.forall_mem_cons]
  exact ⟨isDataModels, isLineageEdges, isTestSuites, isTestDefinitions, isTestCases,
    isTestResults, isFailures, List.forall_mem_nil _⟩

end Summary

/-- A report is recovered exactly if its counts are numbers that a machine word holds. -/
theorem Report.decode_eq_ok_iff
    (report : Report)
    (source : Source)
    {other : Value}
    (rearranged : report.encode.Rearranged other) :
    Report.decode source other = .ok report ↔ report.summary.Countable := by
  constructor
  · intro decoded
    obtain ⟨others, rfl, alike⟩ := rearranged.of_object
    have counted (summary : Summary)
        (taken : (Field.required "summary" Summary.decode).ofMembers source others =
          .ok summary) :
        summary.Countable := by
      obtain ⟨found, sameCounts, read⟩ := Field.decode_of_ofMembers alike rfl taken
      obtain ⟨members, rfl, -⟩ := sameCounts.of_object
      exact Summary.countable_of_decode read
    refine (?_ : Fields.Ensures _ source others fun made => made.summary.Countable).of_decode decoded
    refine .anyField (.field (.anyField (.anyField (.anyField (Fields.ensures_build ?_)))) counted)
    intro version generatedAt service summary countable failures
    exact countable
  · intro countable
    revert rearranged
    apply Fields.Recovers.object
    exact Fields.recovers_build Report.mk _
      |>.field rfl (ReportVersion.recovers report.version)
      |>.field rfl (Decoder.string_recovers report.generatedAt)
      |>.field rfl (Decoder.string_recovers report.service)
      |>.field rfl (Summary.recovers countable)
      |>.field rfl (Decoder.list_recovers fun failure _ => Failure.recovers failure)

/-! ## Requests for lineage and setup -/

theorem LineageEdge.recovers
    (edge : LineageEdge) :
    LineageEdge.decode.Recovers edge.encode edge := by
  apply Fields.Recovers.object
  exact Fields.recovers_build LineageEdge.mk _
    |>.field rfl (EntityReference.recovers edge.source)
    |>.field rfl (EntityReference.recovers edge.target)

theorem LineageRequest.recovers
    (request : LineageRequest) :
    LineageRequest.decode.Recovers request.encode request := by
  apply Fields.Recovers.object
  exact Fields.recovers_build LineageRequest.mk _
    |>.field rfl (LineageEdge.recovers request.edge)

theorem SuiteRequest.recovers
    (request : SuiteRequest) :
    SuiteRequest.decode.Recovers request.encode request := by
  apply Fields.Recovers.object
  exact Fields.recovers_build SuiteRequest.mk _
    |>.field rfl (Decoder.string_recovers request.name)
    |>.field rfl (Decoder.string_recovers request.description)

theorem TestTarget.recovers
    (target : TestTarget) :
    TestTarget.decode.Recovers target.encode target := by
  cases target <;> exact Decoder.choice_recovers rfl

theorem TestPlatform.recovers
    (platform : TestPlatform) :
    TestPlatform.decode.Recovers platform.encode platform := by
  cases platform
  exact Decoder.choice_recovers rfl

theorem ParameterDefinition.recovers
    (parameter : ParameterDefinition) :
    ParameterDefinition.decode.Recovers parameter.encode parameter := by
  apply Fields.Recovers.object
  exact Fields.recovers_build ParameterDefinition.mk _
    |>.field rfl (Decoder.string_recovers parameter.name)
    |>.field rfl (Decoder.string_recovers parameter.displayName)
    |>.field rfl (Decoder.boolean_recovers parameter.required)

theorem DefinitionRequest.recovers
    (request : DefinitionRequest) :
    DefinitionRequest.decode.Recovers request.encode request := by
  apply Fields.Recovers.object
  exact Fields.recovers_build DefinitionRequest.mk _
    |>.field rfl (Decoder.string_recovers request.name)
    |>.field rfl (Decoder.string_recovers request.description)
    |>.field rfl (TestTarget.recovers request.target)
    |>.field rfl (Decoder.list_recovers fun platform _ => TestPlatform.recovers platform)
    |>.field rfl (Decoder.list_recovers fun parameter _ => ParameterDefinition.recovers parameter)

theorem SetupRequest.recovers
    (request : SetupRequest) :
    SetupRequest.decode.Recovers request.encode request := by
  cases request with
  | suite wanted =>
      exact Decoder.variants_recovers rfl (by simp [SuiteRequest.members])
        ((SuiteRequest.recovers wanted).map rfl)
  | definition wanted =>
      exact Decoder.variants_recovers rfl (by simp [DefinitionRequest.members])
        ((DefinitionRequest.recovers wanted).map rfl)

/-! ## Requests for cases -/

/-- Of a written link is read what its text is read as. -/
theorem EntityLink.decode_eq_ok_iff
    (written read : EntityLink)
    (source : Source)
    {other : Value}
    (rearranged : written.encode.Rearranged other) :
    EntityLink.decode source other = .ok read ↔ read? written.display = some read := by
  cases rearranged
  simp only [decode, encode, Decoder.string]
  split <;> simp [*]

theorem ParameterValue.recovers
    (parameter : ParameterValue) :
    ParameterValue.decode.Recovers parameter.encode parameter := by
  apply Fields.Recovers.object
  exact Fields.recovers_build ParameterValue.mk _
    |>.field rfl (Decoder.string_recovers parameter.name)
    |>.field rfl (Decoder.string_recovers parameter.value)

/-- The request for a case is recovered exactly if its link is. -/
theorem CaseRequest.decode_eq_ok_iff
    (request : CaseRequest)
    (source : Source)
    {other : Value}
    (rearranged : request.encode.Rearranged other) :
    CaseRequest.decode source other = .ok request ↔
      EntityLink.read? request.link.display = some request.link := by
  constructor
  · intro decoded
    obtain ⟨others, rfl, alike⟩ := rearranged.of_object
    have linked (link : EntityLink)
        (taken : (Field.required "entityLink" EntityLink.decode).ofMembers source others =
          .ok link) :
        EntityLink.read? request.link.display = some link := by
      obtain ⟨found, sameLink, read⟩ := Field.decode_of_ofMembers alike rfl taken
      exact (EntityLink.decode_eq_ok_iff request.link link source sameLink).mp read
    refine (?_ : Fields.Ensures _ source others fun made =>
      EntityLink.read? request.link.display = some made.link).of_decode decoded
    refine .anyField (.anyField (.field (.anyField (.anyField (.anyField
      (Fields.ensures_build ?_)))) linked))
    intro name description definition link readable suite parameters
    exact readable
  · intro readable
    revert rearranged
    apply Fields.Recovers.object
    exact Fields.recovers_build CaseRequest.mk _
      |>.field rfl (Decoder.string_recovers request.name)
      |>.field rfl (Decoder.string_recovers request.description)
      |>.field rfl (EntityReference.recovers request.definition)
      |>.field rfl (fun source _ sameLink =>
        (EntityLink.decode_eq_ok_iff request.link _ source sameLink).mpr readable)
      |>.field rfl (EntityReference.recovers request.suite)
      |>.field rfl (Decoder.list_recovers fun parameter _ => ParameterValue.recovers parameter)

/-- Emitted requests are recovered exactly if the link of every case is. -/
theorem EmittedRequests.decode_eq_ok_iff
    (emitted : EmittedRequests)
    (source : Source)
    {other : Value}
    (rearranged : emitted.encode.Rearranged other) :
    EmittedRequests.decode source other = .ok emitted ↔
      ∀ request ∈ emitted.cases, EntityLink.read? request.link.display = some request.link := by
  constructor
  · intro decoded
    obtain ⟨others, rfl, alike⟩ := rearranged.of_object
    have readable (cases : List CaseRequest)
        (taken : (Field.required "test_cases" (.list CaseRequest.decode)).ofMembers source others =
          .ok cases)
        (same : cases = emitted.cases) :
        ∀ request ∈ emitted.cases,
          EntityLink.read? request.link.display = some request.link := by
      subst same
      obtain ⟨found, sameCases, read⟩ := Field.decode_of_ofMembers alike rfl taken
      intro request among
      obtain ⟨item, sameCase, readCase⟩ :=
        Decoder.exists_decode_of_list sameCases read request among
      exact (CaseRequest.decode_eq_ok_iff request source sameCase).mp readCase
    refine (?_ : Fields.Ensures _ source others fun made => made.cases = emitted.cases →
      ∀ request ∈ emitted.cases,
        EntityLink.read? request.link.display = some request.link).of_decode decoded rfl
    refine .field (.anyField (.anyField (.anyField (Fields.ensures_build ?_)))) readable
    intro lineage suites definitions cases linked
    exact linked
  · intro readable
    revert rearranged
    apply Fields.Recovers.object
    exact Fields.recovers_build EmittedRequests.mk _
      |>.field rfl (Decoder.list_recovers fun request _ => LineageRequest.recovers request)
      |>.field rfl (Decoder.list_recovers fun request _ => SuiteRequest.recovers request)
      |>.field rfl (Decoder.list_recovers fun request _ => DefinitionRequest.recovers request)
      |>.field rfl (Decoder.list_recovers fun request among source _ sameCase =>
        (CaseRequest.decode_eq_ok_iff request source sameCase).mpr (readable request among))

/-! ## All that a run writes -/

/-- Whatever a run writes is read back as it was, with the members of its objects in any order: as
they were written or, in a value that keeps them sorted, by name. The counts of a report are words
of 64 bits, so a report with larger counts is none that a run can make; and the link of a case is
written as a text, from which the names of the table and the column must be found again. -/
theorem written_values_recovered :
    (∀ model : DataModel, DataModel.decode.Recovers model.encode model) ∧
    (∀ entity : Entity, Entity.decode.Recovers entity.encode entity) ∧
    (∀ reference : EntityReference, EntityReference.decode.Recovers reference.encode reference) ∧
    (∀ request : NameRequest, NameRequest.decode.Recovers request.encode request) ∧
    (∀ failure : Failure, Failure.decode.Recovers failure.encode failure) ∧
    (∀ result : TestResult, TestResult.decode.Recovers result.encode result) ∧
    (∀ request : SetupRequest, SetupRequest.decode.Recovers request.encode request) ∧
    (∀ (report : Report) (source : Source) (other : Value), report.encode.Rearranged other →
      (Report.decode source other = .ok report ↔ report.summary.Countable)) ∧
    ∀ (emitted : EmittedRequests) (source : Source) (other : Value),
      emitted.encode.Rearranged other →
        (EmittedRequests.decode source other = .ok emitted ↔
          ∀ request ∈ emitted.cases,
            EntityLink.read? request.link.display = some request.link) :=
  ⟨DataModel.recovers, Entity.recovers, EntityReference.recovers, NameRequest.recovers,
    Failure.recovers, TestResult.recovers, SetupRequest.recovers,
    fun report source _ => report.decode_eq_ok_iff source,
    fun emitted source _ => emitted.decode_eq_ok_iff source⟩

/-- The request for a case on a table without a name. -/
def EmittedRequests.onNamelessTable : EmittedRequests :=
  ⟨[], [], [],
    [⟨"unique", "", ⟨⟨"1"⟩, "testDefinition"⟩, ⟨"", none⟩, ⟨⟨"2"⟩, "testSuite"⟩, []⟩]⟩

/-- An empty report is read back; the request on a table without a name is not, here with the members
of the emitted requests in the opposite order. -/
theorem written_values_recovered_except_nameless_table :
    Report.decode .direct (Report.new "warehouse" "2024-01-01T00:00:00Z").encode =
      .ok (Report.new "warehouse" "2024-01-01T00:00:00Z") ∧
    EmittedRequests.decode .direct (.object EmittedRequests.onNamelessTable.members.reverse) ≠
      .ok EmittedRequests.onNamelessTable := by
  obtain ⟨-, -, -, -, -, -, -, reports, emissions⟩ := written_values_recovered
  refine ⟨(reports _ _ _ (.refl _)).mpr (by unfold Summary.Countable; decide), fun decoded => ?_⟩
  refine absurd ((emissions _ _ _ ?_).mp decoded _ (List.mem_singleton_self _)) (by decide)
  exact Value.rearranged_object (.of_perm (List.reverse_perm _).symm)

end CatalogIngest
