import CatalogIngest.Ingest.Outcome
import CatalogIngest.Ingest.Run
import CatalogIngest.Proofs.Ingest.SetupTurn

/-!
# Which setup requests are due

Given the names that a catalog held when a pass began, the nodes alone decide what is due. A name is
spoken for by the first node that needs it and can make the request; a node that cannot make it is at
fault for a missing name until then.
-/

namespace CatalogIngest

/-- The names that a catalog holds. -/
abbrev HeldNames := SetupKind → String → Bool

namespace SetupRequest

/-- The requests of a kind and name among some requests. -/
def ofName (kind : SetupKind) (name : String) (requests : List SetupRequest) :
    List SetupRequest :=
  requests.filter fun request => request.kind = kind ∧ request.name = name

theorem ofName_append
    (kind : SetupKind)
    (name : String)
    (first second : List SetupRequest) :
    ofName kind name (first ++ second) = ofName kind name first ++ ofName kind name second :=
  List.filter_append _ _

theorem suites_filter_eq
    (requests : List SetupRequest)
    (name : String) :
    (suites requests).filter (·.name = name) = suites (ofName .suite name requests) := by
  induction requests with
  | nil => rfl
  | cons first rest inductionHypothesis =>
      unfold ofName suites at inductionHypothesis ⊢
      cases first with
      | suite wanted =>
          by_cases same : wanted.name = name <;>
            simp [SetupRequest.kind, SetupRequest.name, same, inductionHypothesis]
      | definition wanted => simp [SetupRequest.kind, inductionHypothesis]

theorem definitions_filter_eq
    (requests : List SetupRequest)
    (name : String) :
    (definitions requests).filter (·.name = name) =
      definitions (ofName .definition name requests) := by
  induction requests with
  | nil => rfl
  | cons first rest inductionHypothesis =>
      unfold ofName definitions at inductionHypothesis ⊢
      cases first with
      | suite wanted => simp [SetupRequest.kind, inductionHypothesis]
      | definition wanted =>
          by_cases same : wanted.name = name <;>
            simp [SetupRequest.kind, SetupRequest.name, same, inductionHypothesis]

end SetupRequest

namespace SetupKind

/-- The request that an entry makes for a name, if it needs the name and can make the request. -/
def spokenBy (kind : SetupKind) (name : String) (entry : String × ManifestNode) :
    Option SetupRequest :=
  if kind.nameFor entry.2 = name then (kind.requestFor entry).toOption else none

theorem spokenBy_eq_some_iff
    {kind : SetupKind}
    {name : String}
    {entry : String × ManifestNode}
    {request : SetupRequest} :
    kind.spokenBy name entry = some request ↔
      kind.nameFor entry.2 = name ∧ kind.requestFor entry = .ok request := by
  unfold spokenBy
  split
  · next same =>
      rw [and_iff_right same]
      cases kind.requestFor entry <;> simp [Except.toOption]
  · next different => simp [different]

/-- The suite request of an entry, if its suite has the name. -/
def suiteFor (name : String) (entry : String × ManifestNode) : Option SuiteRequest :=
  if entry.2.suiteName = name then some entry.2.suiteRequest else none

/-- The definition request of an entry, if its node has the name and has metadata. -/
def definitionFor (name : String) (entry : String × ManifestNode) : Option DefinitionRequest :=
  if entry.2.name = name then entry.2.testMetadata.map entry.2.definitionWith else none

theorem spokenBy_suite
    (name : String) :
    suite.spokenBy name = Option.map .suite ∘ suiteFor name := by
  funext entry
  rw [Function.comp_apply, spokenBy, suiteFor, nameFor]
  split <;> rfl

theorem spokenBy_definition
    (name : String) :
    definition.spokenBy name = Option.map .definition ∘ definitionFor name := by
  funext entry
  rw [Function.comp_apply, spokenBy, definitionFor, nameFor, requestFor,
    ManifestNode.definitionRequest, ManifestNode.requireMetadata]
  cases entry.2.testMetadata <;> split <;> rfl

/-- For a definition, the nodes of its name with metadata can speak. -/
theorem isSome_spokenBy_definition
    (name : String)
    (entry : String × ManifestNode) :
    (definition.spokenBy name entry).isSome = true ↔
      entry.2.name = name ∧ entry.2.testMetadata.isSome = true := by
  rw [spokenBy_definition, Function.comp_apply, Option.isSome_map, definitionFor]
  split
  · next same => simp [same]
  · next different => simp [different]

end SetupKind

namespace TestSetup

variable (held : HeldNames)

/-! ## Node by node -/

/-- Nothing more is due for a name: it was held, or an earlier entry speaks for it. -/
def isProvided (kind : SetupKind) (name : String) (earlier : List (String × ManifestNode)) : Bool :=
  held kind name || earlier.any fun entry => (kind.spokenBy name entry).isSome

/-- What is due at the turn of an entry. -/
def turnDue (kind : SetupKind) (earlier : List (String × ManifestNode))
    (entry : String × ManifestNode) : Batch :=
  if isProvided held kind (kind.nameFor entry.2) earlier then [] else [kind.requestFor entry]

/-- What is due for an entry: its suite, then its definition. -/
def nodeDue (earlier : List (String × ManifestNode)) (entry : String × ManifestNode) : Batch :=
  turnDue held .suite earlier entry ++ turnDue held .definition earlier entry

/-- What is due for some entries after earlier ones. -/
def dueFrom : List (String × ManifestNode) → List (String × ManifestNode) → Batch
  | _, [] => []
  | earlier, entry :: later => nodeDue held earlier entry ++ dueFrom (earlier ++ [entry]) later

theorem dueFrom_concat
    (earlier front : List (String × ManifestNode))
    (entry : String × ManifestNode) :
    dueFrom held earlier (front ++ [entry]) =
      dueFrom held earlier front ++ nodeDue held (earlier ++ front) entry := by
  induction front generalizing earlier with
  | nil => simp [dueFrom]
  | cons first front inductionHypothesis =>
      rw [List.cons_append, dueFrom, dueFrom, inductionHypothesis, List.append_assoc,
        List.append_assoc, List.singleton_append]

theorem isProvided_concat
    (kind : SetupKind)
    (name : String)
    (earlier : List (String × ManifestNode))
    (entry : String × ManifestNode) :
    isProvided held kind name (earlier ++ [entry]) =
      (isProvided held kind name earlier || (kind.spokenBy name entry).isSome) := by
  simp [isProvided, Bool.or_assoc]

/-- A request that is due is made by one of the entries. -/
theorem of_ok_mem_dueFrom
    {earlier later : List (String × ManifestNode)}
    {request : SetupRequest}
    (due : .ok request ∈ dueFrom held earlier later) :
    ∃ entry ∈ later, request.kind.spokenBy request.name entry = some request := by
  have ofTurn : ∀ {kind : SetupKind} {entry : String × ManifestNode} {earlier},
      .ok request ∈ turnDue held kind earlier entry →
        request.kind.spokenBy request.name entry = some request := by
    intro kind entry earlier member
    unfold turnDue at member
    split at member
    · nomatch member
    · have made := (List.mem_singleton.mp member).symm
      obtain ⟨rfl, sameName⟩ := SetupKind.requestFor_ok made
      exact SetupKind.spokenBy_eq_some_iff.mpr ⟨sameName.symm, made⟩
  induction later generalizing earlier with
  | nil => nomatch due
  | cons entry later inductionHypothesis =>
      rw [dueFrom, nodeDue, List.mem_append, List.mem_append] at due
      rcases due with (inSuites | inDefinitions) | inLater
      · exact ⟨entry, List.mem_cons_self, ofTurn inSuites⟩
      · exact ⟨entry, List.mem_cons_self, ofTurn inDefinitions⟩
      · obtain ⟨other, member, spoken⟩ := inductionHypothesis inLater
        exact ⟨other, List.mem_cons_of_mem _ member, spoken⟩

/-! ## Requests by name -/

/-- At the turn of an entry, a request for a name is due if the entry speaks for the name and nobody
did before. -/
theorem ofName_turnDue
    (kind : SetupKind)
    (name : String)
    (earlier : List (String × ManifestNode))
    (entry : String × ManifestNode) :
    SetupRequest.ofName kind name (successes (turnDue held kind earlier entry)) =
      if isProvided held kind name earlier then [] else (kind.spokenBy name entry).toList := by
  unfold turnDue
  by_cases same : kind.nameFor entry.2 = name
  · rw [same]
    split
    · rfl
    · cases made : kind.requestFor entry with
      | error failure =>
          have silent : kind.spokenBy name entry = none := by
            rw [SetupKind.spokenBy, if_pos same, made, Except.toOption]
          rw [silent]
          rfl
      | ok request =>
          obtain ⟨sameKind, sameName⟩ := SetupKind.requestFor_ok made
          rw [SetupKind.spokenBy_eq_some_iff.mpr ⟨same, made⟩]
          simp [SetupRequest.ofName, successes, sameKind, sameName, same]
  · have silent : kind.spokenBy name entry = none := if_neg same
    rw [silent, Option.toList_none, ite_self]
    split
    · rfl
    · cases made : kind.requestFor entry with
      | error failure => rfl
      | ok request =>
          have sameName := (SetupKind.requestFor_ok made).2
          simp [SetupRequest.ofName, successes, sameName, same]

theorem ofName_turnDue_other
    {kind other : SetupKind}
    (different : other ≠ kind)
    (name : String)
    (earlier : List (String × ManifestNode))
    (entry : String × ManifestNode) :
    SetupRequest.ofName kind name (successes (turnDue held other earlier entry)) = [] := by
  unfold turnDue
  split
  · rfl
  · cases made : other.requestFor entry with
    | error failure => rfl
    | ok request =>
        have sameKind := (SetupKind.requestFor_ok made).1
        simp [SetupRequest.ofName, successes, sameKind, different]

theorem ofName_nodeDue
    (kind : SetupKind)
    (name : String)
    (earlier : List (String × ManifestNode))
    (entry : String × ManifestNode) :
    SetupRequest.ofName kind name (successes (nodeDue held earlier entry)) =
      if isProvided held kind name earlier then [] else (kind.spokenBy name entry).toList := by
  rw [nodeDue, successes_append, SetupRequest.ofName_append]
  cases kind with
  | suite =>
      rw [ofName_turnDue, ofName_turnDue_other held (by decide), List.append_nil]
  | definition =>
      rw [ofName_turnDue, ofName_turnDue_other held (by decide), List.nil_append]

/-- For a name that is not provided, the request of the first entry that speaks for it is due, and no
other. -/
theorem ofName_dueFrom
    (kind : SetupKind)
    (name : String)
    (earlier later : List (String × ManifestNode)) :
    SetupRequest.ofName kind name (successes (dueFrom held earlier later)) =
      if isProvided held kind name earlier then []
      else (later.findSome? (kind.spokenBy name)).toList := by
  induction later generalizing earlier with
  | nil => simp [dueFrom, successes, SetupRequest.ofName]
  | cons entry later inductionHypothesis =>
      rw [dueFrom, successes_append, SetupRequest.ofName_append, ofName_nodeDue,
        inductionHypothesis, isProvided_concat, List.findSome?_cons]
      cases isProvided held kind name earlier with
      | true => rfl
      | false =>
          cases kind.spokenBy name entry with
          | none => rfl
          | some request => rfl

/-! ## Failures -/

/-- The failure of a node that has no metadata. -/
def metadataMissing (entry : String × ManifestNode) : Failure :=
  .shape .testSetup entry.1 "test node has no test_metadata"

/-- A node without metadata comes too early: its name was not held, and all nodes of that name with
metadata have greater keys. -/
def ComesTooEarly (tests : List (String × ManifestNode)) (entry : String × ManifestNode) : Prop :=
  entry.2.testMetadata.isSome = false ∧ held .definition entry.2.name = false ∧
    ∀ other ∈ tests, other.2.name = entry.2.name → other.2.testMetadata.isSome = true →
      entry.1 < other.1

instance (tests : List (String × ManifestNode)) (entry : String × ManifestNode) :
    Decidable (ComesTooEarly held tests entry) :=
  inferInstanceAs (Decidable (_ ∧ _ ∧ _))

theorem failures_nodeDue
    (earlier : List (String × ManifestNode))
    (entry : String × ManifestNode) :
    failuresAmong (nodeDue held earlier entry) =
      if entry.2.testMetadata.isSome = false ∧
          isProvided held .definition entry.2.name earlier = false then
        [metadataMissing entry]
      else [] := by
  have noSuiteFails : failuresAmong (turnDue held .suite earlier entry) = [] := by
    unfold turnDue
    split <;> rfl
  rw [nodeDue, failuresAmong_append, noSuiteFails, List.nil_append, turnDue, SetupKind.nameFor]
  cases isProvided held .definition entry.2.name earlier with
  | true => simp [failuresAmong]
  | false =>
      rw [SetupKind.requestFor, ManifestNode.definitionRequest, ManifestNode.requireMetadata]
      cases entry.2.testMetadata <;> simp [failuresAmong, Except.map, metadataMissing]

/-- Among nodes in key order, those before a node are the ones that can provide its definition in
time. -/
theorem comesTooEarly_iff
    {earlier later : List (String × ManifestNode)}
    {entry : String × ManifestNode}
    (increasing : (earlier ++ entry :: later).Pairwise fun first second => first.1 < second.1) :
    ComesTooEarly held (earlier ++ entry :: later) entry ↔
      entry.2.testMetadata.isSome = false ∧
        isProvided held .definition entry.2.name earlier = false := by
  obtain ⟨-, behind, before⟩ := List.pairwise_append.mp increasing
  unfold ComesTooEarly isProvided
  rw [Bool.or_eq_false_iff, List.any_eq_false]
  refine and_congr_right fun noMetadata => and_congr_right fun notHeld => ?_
  constructor
  · intro first other member spoken
    obtain ⟨sameName, hasMetadata⟩ := (SetupKind.isSome_spokenBy_definition _ _).mp spoken
    have below := first other (List.mem_append_left _ member) sameName hasMetadata
    exact String.lt_irrefl _ (String.lt_trans below (before other member entry List.mem_cons_self))
  · intro silent other member sameName hasMetadata
    rcases List.mem_append.mp member with inEarlier | inRest
    · exact absurd ((SetupKind.isSome_spokenBy_definition _ _).mpr ⟨sameName, hasMetadata⟩)
        (silent other inEarlier)
    · rcases List.mem_cons.mp inRest with rfl | inLater
      · rw [noMetadata] at hasMetadata
        nomatch hasMetadata
      · exact (List.pairwise_cons.mp behind).1 other inLater

/-- The failures that are due are those of the nodes that come too early, in key order. -/
theorem failures_dueFrom
    (earlier later : List (String × ManifestNode))
    (increasing : (earlier ++ later).Pairwise fun first second => first.1 < second.1) :
    failuresAmong (dueFrom held earlier later) =
      (later.filter fun entry => ComesTooEarly held (earlier ++ later) entry).map
        metadataMissing := by
  induction later generalizing earlier with
  | nil => rfl
  | cons entry later inductionHypothesis =>
      have rest := inductionHypothesis (earlier ++ [entry])
      rw [← List.append_cons] at rest
      rw [dueFrom, failuresAmong_append, rest increasing, failures_nodeDue, List.filter_cons]
      simp only [decide_eq_true_eq, comesTooEarly_iff held increasing]
      split <;> rfl

end TestSetup
end CatalogIngest
