import CatalogIngest.Ingest.Run
import CatalogIngest.Proofs.Ingest.InMemory

/-!
# The log of a mapping

Mapping tests calls the catalog: entities are looked up, names are built and results are submitted.
With logging collaborators every call is written down with its answer, and nothing else changes. So
the log shows what each step of a mapping came to and which calls it made for that.
-/

namespace CatalogIngest

/-! ## Writing calls down -/

/-- What happens while tests are mapped: the catalog answers a call, or whoever asks for cases is
given an answer. -/
inductive MappingEvent
  | looked (kind : EntityKind) (name : String) (answer : Except CatalogError (Option Entity))
  | built (request : NameRequest) (answer : Except CatalogError (Option String))
  | submitted (name : String) (result : TestResult) (answer : Except CatalogError Unit)
  | given (answer : Option (Except Failure CaseRequest))

namespace MappingEvent

/-- The event is a question to the catalog. -/
def isQuestion : MappingEvent → Bool
  | .looked _ _ _ => true
  | .built _ _ => true
  | _ => false

/-- The event is the submission of a result. -/
def isSubmission : MappingEvent → Bool
  | .submitted _ _ _ => true
  | _ => false

/-- The full name of the case that a result is submitted to, if the event is a submission. -/
def submittedTo? : MappingEvent → Option String
  | .submitted name _ _ => some name
  | _ => none

/-- The case item that is handed out, if any. -/
def item? : MappingEvent → Option (Except Failure CaseRequest)
  | .given answer => answer
  | _ => none

theorem isSubmission_of_isQuestion
    {event : MappingEvent}
    (question : event.isQuestion = true) :
    event.isSubmission = false := by
  cases event with
  | submitted name result answer => nomatch question
  | _ => rfl

end MappingEvent

/-- The state of a catalog together with what has happened so far. -/
structure Logged (σ : Type) where
  state : σ
  events : List MappingEvent

/-- Let a call act on the state, and write it down with its answer. -/
def Logged.call {σ α : Type} (event : Except CatalogError α → MappingEvent)
    (call : CatalogCall σ α) : CatalogCall (Logged σ) α := fun logged =>
  let (answer, state) := call logged.state
  (answer, ⟨state, logged.events ++ [event answer]⟩)

/-- The same collaborators, with every call written down. -/
def Context.logged {σ : Type} (context : Context σ) : Context (Logged σ) where
  service := context.service
  client :=
    { name := context.client.name
      lookup := fun kind name => Logged.call (.looked kind name) (context.client.lookup kind name)
      submit := fun name result =>
        Logged.call (.submitted name result) (context.client.submit name result) }
  names := ⟨fun request => Logged.call (.built request) (context.names.build request)⟩
  readType := context.readType

/-- The same mapping, with every call written down. -/
def TestMapping.logged {σ : Type} (mapping : TestMapping σ) : TestMapping (Logged σ) :=
  ⟨mapping.context.logged, mapping.artifacts, mapping.tests, mapping.runResults⟩

/-- The same run, with every call written down. -/
def Run.logged {σ : Type} (run : Run σ) : Run (Logged σ) :=
  ⟨run.context.logged, run.artifacts, run.resolved, run.runResults⟩

/-- Writing calls down changes neither what a computation gives nor what becomes of the catalog, and
the calls fit what it gives. -/
def Traced {σ α : Type} (plain : StateM σ α) (logged : StateM (Logged σ) α)
    (fits : List MappingEvent → α → Prop) : Prop :=
  ∀ state events, ∃ calls,
    logged ⟨state, events⟩ = ((plain state).1, ⟨(plain state).2, events ++ calls⟩) ∧
      fits calls (plain state).1

/-! ## Efforts -/

/-- What something came to, and which calls were made for it. -/
structure Effort (α : Type) where
  calls : List MappingEvent
  outcome : Except Failure α

namespace Effort

variable {α β : Type}

/-- An effort after another one goes on from what that came to, unless it failed. -/
inductive Continues (first : Effort α → Prop) (second : α → Effort β → Prop) : Effort β → Prop
  | failed {calls : List MappingEvent} {failure : Failure}
      (stopped : first ⟨calls, .error failure⟩) :
      Continues first second ⟨calls, .error failure⟩
  | went {earlier later : List MappingEvent} {value : α} {outcome : Except Failure β}
      (done : first ⟨earlier, .ok value⟩) (next : second value ⟨later, outcome⟩) :
      Continues first second ⟨earlier ++ later, outcome⟩

/-- The answer to one call is required: an error, and a missing answer, are failures. -/
inductive Requires (event : Except CatalogError (Option α) → MappingEvent) (stage : Stage)
    (subject missing : String) : Effort α → Prop
  | unanswered (error : CatalogError) :
      Requires event stage subject missing
        ⟨[event (.error error)], .error (.external stage subject error.message)⟩
  | nothing :
      Requires event stage subject missing
        ⟨[event (.ok none)], .error (.miss stage subject missing)⟩
  | something (found : α) :
      Requires event stage subject missing ⟨[event (.ok (some found))], .ok found⟩

/-- A dependency is named: it must be in the manifest, and the name that is requested for it must
exist. -/
inductive Names (artifacts : MergedArtifacts) (stage : Stage) (subject : String)
    (request : ManifestNode → NameRequest) (id : String) : Effort String → Prop
  | missing (absent : artifacts.manifest.get? id = none) :
      Names artifacts stage subject request id
        ⟨[], .error (.shape stage subject ("dependency '" ++ id ++ "' not found in manifest"))⟩
  | requested {node : ManifestNode} {effort : Effort String}
      (present : artifacts.manifest.get? id = some node)
      (required : Requires (.built (request node)) stage subject
        ("no fully qualified name for " ++ (request node).shown) effort) :
      Names artifacts stage subject request id effort

/-- The call whose answer is required is the only one. -/
theorem Requires.questions
    {event : Except CatalogError (Option α) → MappingEvent}
    {stage : Stage}
    {subject missing : String}
    {effort : Effort α}
    (requires : Requires event stage subject missing effort)
    (question : ∀ answer, (event answer).isQuestion = true) :
    ∀ call ∈ effort.calls, call.isQuestion = true := by
  cases requires <;> exact List.forall_mem_singleton.mpr (question _)

/-- Naming a dependency only asks. -/
theorem Names.questions
    {artifacts : MergedArtifacts}
    {stage : Stage}
    {subject id : String}
    {request : ManifestNode → NameRequest}
    {effort : Effort String}
    (names : Names artifacts stage subject request id effort) :
    ∀ call ∈ effort.calls, call.isQuestion = true := by
  cases names with
  | missing absent => exact List.forall_mem_nil _
  | requested present required => exact required.questions fun _ => rfl

end Effort

/-- An attempt and its logging counterpart make efforts of a kind. -/
def Tries {σ α : Type} (plain : Attempt σ α) (logged : Attempt (Logged σ) α)
    (kind : Effort α → Prop) : Prop :=
  Traced plain.run logged.run fun calls outcome => kind ⟨calls, outcome⟩

/-- A computation and its logging counterpart make efforts of a kind, one for each outcome. -/
def Makes {σ α : Type} (plain : StateM σ (List (Except Failure α)))
    (logged : StateM (Logged σ) (List (Except Failure α))) (kind : List (Effort α) → Prop) : Prop :=
  Traced plain logged fun calls outcomes =>
    ∃ efforts, kind efforts ∧ calls = efforts.flatMap Effort.calls ∧
      outcomes = efforts.map Effort.outcome

section Tries

variable {σ α β ι : Type}

theorem Traced.imp
    {plain : StateM σ α}
    {logged : StateM (Logged σ) α}
    {fits wider : List MappingEvent → α → Prop}
    (traced : Traced plain logged fits)
    (widen : ∀ calls value, fits calls value → wider calls value) :
    Traced plain logged wider := by
  intro state events
  obtain ⟨calls, same, fitting⟩ := traced state events
  exact ⟨calls, same, widen _ _ fitting⟩

theorem traced_pure
    (value : α) :
    Traced (σ := σ) (pure value) (pure value) fun calls result => calls = [] ∧ result = value :=
  fun _ events => ⟨[], by rw [List.append_nil]; rfl, rfl, rfl⟩

theorem Traced.bind
    {plain : StateM σ α}
    {logged : StateM (Logged σ) α}
    {fits : List MappingEvent → α → Prop}
    {next : α → StateM σ β}
    {loggedNext : α → StateM (Logged σ) β}
    {nextFits : α → List MappingEvent → β → Prop}
    (first : Traced plain logged fits)
    (second : ∀ value, Traced (next value) (loggedNext value) (nextFits value)) :
    Traced (plain >>= next) (logged >>= loggedNext) fun calls result =>
      ∃ value earlier later, calls = earlier ++ later ∧ fits earlier value ∧
        nextFits value later result := by
  intro state events
  obtain ⟨earlier, same, fitting⟩ := first state events
  obtain ⟨later, sameNext, fittingNext⟩ :=
    second (plain state).1 (plain state).2 (events ++ earlier)
  refine ⟨earlier ++ later, ?_, (plain state).1, earlier, later, rfl, fitting, fittingNext⟩
  rw [← List.append_assoc]
  refine Eq.trans ?_ sameNext
  change loggedNext (logged ⟨state, events⟩).1 (logged ⟨state, events⟩).2 = _
  rw [same]

theorem tries_value
    {outcome : Except Failure α}
    {kind : Effort α → Prop}
    (fits : kind ⟨[], outcome⟩) :
    Tries (σ := σ) (ExceptT.mk fun state => (outcome, state))
      (ExceptT.mk fun state => (outcome, state)) kind :=
  fun _ events => ⟨[], by rw [List.append_nil]; rfl, fits⟩

/-- What follows on a known failure is not done. -/
theorem tries_after_error
    {failure : Failure}
    {next : α → Attempt σ β}
    {loggedNext : α → Attempt (Logged σ) β}
    {kind : Effort β → Prop}
    (fits : kind ⟨[], .error failure⟩) :
    Tries ((ExceptT.mk fun state => (.error failure, state)) >>= next)
      ((ExceptT.mk fun state => (.error failure, state)) >>= loggedNext) kind :=
  tries_value fits

/-- What follows on a known value goes on from it. -/
theorem tries_after_ok
    {value : α}
    {next : α → Attempt σ β}
    {loggedNext : α → Attempt (Logged σ) β}
    {kind : Effort β → Prop}
    (tries : Tries (next value) (loggedNext value) kind) :
    Tries ((ExceptT.mk fun state => (.ok value, state)) >>= next)
      ((ExceptT.mk fun state => (.ok value, state)) >>= loggedNext) kind :=
  tries

theorem Tries.bind
    {plain : Attempt σ α}
    {logged : Attempt (Logged σ) α}
    {kind : Effort α → Prop}
    {next : α → Attempt σ β}
    {loggedNext : α → Attempt (Logged σ) β}
    {nextKind : α → Effort β → Prop}
    (first : Tries plain logged kind)
    (second : ∀ value, Tries (next value) (loggedNext value) (nextKind value)) :
    Tries (plain >>= next) (logged >>= loggedNext) (Effort.Continues kind nextKind) := by
  intro state events
  obtain ⟨earlier, same, fits⟩ := first state events
  rw [Attempt.run_bind, Attempt.run_bind, same]
  revert fits
  rcases plain.run state with ⟨failure | value, after⟩
  · exact fun fits => ⟨earlier, rfl, .failed fits⟩
  · intro fits
    obtain ⟨later, sameNext, fitsNext⟩ := second value after (events ++ earlier)
    refine ⟨earlier ++ later, ?_, .went fits fitsNext⟩
    rw [← List.append_assoc]
    exact sameNext

theorem Tries.imp
    {plain : Attempt σ α}
    {logged : Attempt (Logged σ) α}
    {kind wider : Effort α → Prop}
    (tries : Tries plain logged kind)
    (widen : ∀ effort, kind effort → wider effort) :
    Tries plain logged wider :=
  Traced.imp tries fun _ _ => widen _

/-- Outcomes that are given without a call. -/
theorem makes_silently
    {outcomes : List (Except Failure α)}
    {kind : List (Effort α) → Prop}
    (fits : kind (outcomes.map (Effort.mk []))) :
    Makes (σ := σ) (pure outcomes) (pure outcomes) kind := by
  refine (traced_pure outcomes).imp ?_
  rintro _ _ ⟨rfl, rfl⟩
  exact ⟨_, fits, by simp, by simp [Function.comp_def]⟩

/-- What one computation makes stands before what the next one makes. -/
theorem Makes.append
    {plain later : StateM σ (List (Except Failure α))}
    {logged loggedLater : StateM (Logged σ) (List (Except Failure α))}
    {kind laterKind : List (Effort α) → Prop}
    (first : Makes plain logged kind)
    (second : Makes later loggedLater laterKind) :
    Makes
      (plain >>= fun outcomes => later >>= fun others => pure (outcomes ++ others))
      (logged >>= fun outcomes => loggedLater >>= fun others => pure (outcomes ++ others))
      fun efforts => ∃ front back, efforts = front ++ back ∧ kind front ∧ laterKind back := by
  refine (Traced.bind first fun outcomes => Traced.bind second fun others =>
    traced_pure (outcomes ++ others)).imp ?_
  rintro _ _ ⟨_, _, _, rfl, ⟨front, fits, rfl, rfl⟩, _, _, _, rfl, ⟨back, fitsToo, rfl, rfl⟩, rfl,
    rfl⟩
  exact ⟨front ++ back, ⟨front, back, rfl, fits, fitsToo⟩, by simp, by simp⟩

theorem Makes.imp
    {plain : StateM σ (List (Except Failure α))}
    {logged : StateM (Logged σ) (List (Except Failure α))}
    {kind wider : List (Effort α) → Prop}
    (makes : Makes plain logged kind)
    (widen : ∀ efforts, kind efforts → wider efforts) :
    Makes plain logged wider :=
  Traced.imp makes fun _ _ ⟨efforts, fits, same⟩ => ⟨efforts, widen efforts fits, same⟩

/-- Attempts that are run one after another make one effort each, whatever the others come to. -/
theorem makes_outcomesOf
    {attempt : ι → Attempt σ α}
    {logged : ι → Attempt (Logged σ) α}
    {kind : ι → Effort α → Prop}
    (each : ∀ id, Tries (attempt id) (logged id) (kind id))
    (ids : List ι) :
    Makes (outcomesOf (ids.map attempt)) (outcomesOf (ids.map logged)) (List.Forall₂ kind ids) := by
  induction ids with
  | nil => exact makes_silently .nil
  | cons id later inductionHypothesis =>
      have first : Makes ((attempt id).run >>= fun outcome => pure [outcome])
          ((logged id).run >>= fun outcome => pure [outcome])
          fun efforts => ∃ effort, kind id effort ∧ efforts = [effort] := by
        refine (Traced.bind (each id) fun outcome => traced_pure [outcome]).imp ?_
        rintro _ _ ⟨outcome, calls, _, rfl, fits, rfl, rfl⟩
        exact ⟨[⟨calls, outcome⟩], ⟨_, fits, rfl⟩, by simp, rfl⟩
      refine (first.append inductionHypothesis).imp ?_
      rintro _ ⟨_, later, rfl, ⟨effort, fits, rfl⟩, kinds⟩
      exact .cons fits kinds

end Tries

/-! ## Questions that need an answer -/

section Questions

variable {σ α : Type} (context : Context σ)

theorem requires_orFail
    (event : Except CatalogError (Option α) → MappingEvent)
    (stage : Stage)
    (subject missing : String)
    (answer : Except CatalogError (Option α)) :
    Effort.Requires event stage subject missing
      ⟨[event answer], Context.orFail stage subject missing answer⟩ := by
  rcases answer with error | (_ | found)
  · exact .unanswered error
  · exact .nothing
  · exact .something found

theorem Context.tries_requireName
    (request : NameRequest)
    (stage : Stage)
    (subject : String) :
    Tries (context.requireName request stage subject)
      (context.logged.requireName request stage subject)
      (Effort.Requires (.built request) stage subject
        ("no fully qualified name for " ++ request.shown)) :=
  fun _ _ => ⟨_, rfl, requires_orFail _ _ _ _ _⟩

/-- What is done with the name of a dependency goes on from naming it. -/
theorem Context.tries_naming
    (artifacts : MergedArtifacts)
    (stage : Stage)
    (subject id : String)
    (request : ManifestNode → NameRequest)
    {next : String → Attempt σ α}
    {loggedNext : String → Attempt (Logged σ) α}
    {kind : String → Effort α → Prop}
    (goesOn : ∀ name, Tries (next name) (loggedNext name) (kind name)) :
    Tries
      (do
        let node ← ExceptT.mk fun state => (artifacts.dependency id stage subject, state)
        let name ← context.requireName (request node) stage subject
        next name)
      (do
        let node ← ExceptT.mk fun state => (artifacts.dependency id stage subject, state)
        let name ← context.logged.requireName (request node) stage subject
        loggedNext name)
      (Effort.Continues (Effort.Names artifacts stage subject request id) kind) := by
  cases present : artifacts.manifest.get? id with
  | none =>
      have lost : artifacts.dependency id stage subject =
          .error (.shape stage subject ("dependency '" ++ id ++ "' not found in manifest")) := by
        rw [MergedArtifacts.dependency, present]
      rw [lost]
      exact tries_after_error (.failed (.missing present))
  | some node =>
      have known : artifacts.dependency id stage subject = .ok node := by
        rw [MergedArtifacts.dependency, present]
      rw [known]
      refine tries_after_ok
        (((context.tries_requireName (request node) stage subject).bind goesOn).imp ?_)
      rintro _ (nameless | ⟨named, later⟩)
      · exact .failed (.requested present nameless)
      · exact .went (.requested present named) later

end Questions

/-! ## Submissions -/

namespace TestMapping

variable {σ : Type}

/-- Submit a result under the name of a case. -/
def submitUnder (context : Context σ) (result : TestResult) (name : String) : Attempt σ String :=
  ExceptT.mk fun state =>
    match context.client.submit name result state with
    | (.error error, state) => (.error (.external .testResult name error.message), state)
    | (.ok (), state) => (.ok name, state)

/-- A result is submitted by naming the case and submitting under its name. -/
theorem submitTo_eq_bind
    (mapping : TestMapping σ)
    (subject : String)
    (test : ManifestNode)
    (result : TestResult)
    (id : String) :
    mapping.submitTo subject test result id = (do
      let node ← ExceptT.mk fun state =>
        (mapping.artifacts.dependency id .testResult subject, state)
      let name ← mapping.context.requireName
        (node.address.testCaseRequest mapping.context.service test.declaredColumn test.name)
        .testResult subject
      submitUnder mapping.context result name) :=
  rfl

theorem tries_submitUnder
    (context : Context σ)
    (result : TestResult)
    (name : String) :
    Tries (submitUnder context result name) (submitUnder context.logged result name) fun effort =>
      (∃ error, effort = ⟨[.submitted name result (.error error)],
          .error (.external .testResult name error.message)⟩) ∨
        effort = ⟨[.submitted name result (.ok ())], .ok name⟩ := by
  intro state events
  have logged : context.logged.client.submit name result ⟨state, events⟩ =
      ((context.client.submit name result state).1,
        ⟨(context.client.submit name result state).2,
          events ++ [.submitted name result (context.client.submit name result state).1]⟩) :=
    rfl
  rw [submitUnder, submitUnder, Attempt.run_mk, Attempt.run_mk, logged]
  rcases context.client.submit name result state with ⟨error | _, after⟩
  · exact ⟨_, rfl, .inl ⟨error, rfl⟩⟩
  · exact ⟨_, rfl, .inr rfl⟩

end TestMapping
end CatalogIngest
