import CatalogIngest.Cli.Command
import CatalogIngest.Proofs.Catalog.SnapshotText
import CatalogIngest.Proofs.Ingest.Reingestion

/-!
# The ingest command

The command reads the snapshot and the artifacts before it writes anything. So what it does is told
by the contents that files have at its start: it writes the accepted requests, the report and, if
asked to, the snapshot, in this order.
-/

namespace CatalogIngest
namespace Project

/-- Files with given contents, and a record of what is written to which path. -/
def FileAccess.recording (contents : String → Except FileError String) :
    FileAccess (StateM (List (String × String))) where
  read path := fun written => (contents path, written)
  write path text := fun written => (.ok (), written ++ [(path, text)])
  present path := fun written => ((contents path).toOption.isSome, written)

/-- What the content of a path describes, if it can be read and understood. -/
def described? {α : Type} (contents : String → Except FileError String)
    (read? : String → Option α) (path : String) : Option α :=
  (contents path).toOption.bind read?

theorem described?_of_content
    {α : Type}
    {contents : String → Except FileError String}
    {path text : String}
    (content : contents path = .ok text)
    (read? : String → Option α) :
    described? contents read? path = read? text := by
  unfold described?
  rw [content]
  rfl

/-- The artifacts that contents hold for a configuration. -/
def artifactsIn (contents : String → Except FileError String) (config : Config) :
    LoadedArtifacts :=
  match config.artifacts with
  | none => ⟨none, none, none⟩
  | some paths =>
      { manifest := described? contents Manifest.read? (config.resolve paths.manifest)
        catalog := described? contents CatalogArtifact.read? (config.resolve paths.catalog)
        runResults := paths.runResults.bind fun path =>
          described? contents RunResults.read? (config.resolve path) }

theorem stateM_bind_apply
    {σ α β : Type}
    (first : StateM σ α)
    (next : α → StateM σ β)
    (state : σ) :
    (first >>= next) state = next (first state).1 (first state).2 := rfl

theorem readFile?_recording
    {α : Type}
    (contents : String → Except FileError String)
    (read? : String → Option α)
    (path : String)
    (written : List (String × String)) :
    readFile? (.recording contents) read? path written =
      (described? contents read? path, written) := by
  unfold readFile? described?
  rw [stateM_bind_apply]
  dsimp only [FileAccess.recording]
  cases contents path <;> rfl

theorem loadArtifacts_recording
    (contents : String → Except FileError String)
    (config : Config)
    (written : List (String × String)) :
    loadArtifacts (.recording contents) config written = (artifactsIn contents config, written) := by
  unfold loadArtifacts artifactsIn
  cases config.artifacts with
  | none => rfl
  | some paths =>
      dsimp only
      rw [stateM_bind_apply, readFile?_recording, stateM_bind_apply, readFile?_recording]
      dsimp only
      cases paths.runResults with
      | none => rfl
      | some path =>
          dsimp only
          rw [stateM_bind_apply, readFile?_recording]
          rfl

end Project

namespace Cli

open Project

/-- Surroundings with given files, and a record of what is written. -/
def Surroundings.recording (contents : String → Except FileError String)
    (variableOf : String → Option String) (now : String) (firstNumber : Nat) :
    Surroundings (StateM (List (String × String))) where
  files := .recording contents
  variableOf name := pure (variableOf name)
  now := now
  firstNumber := firstNumber

/-- A computation that cannot fail is a step that succeeds. -/
theorem run_lift
    {W α : Type}
    (compute : StateM W α)
    (state : W) :
    (ExceptT.lift compute : Step (StateM W) α).run state =
      (.ok (compute state).1, (compute state).2) := rfl

section Recording

variable
  (contents : String → Except FileError String)
  (variableOf : String → Option String)
  (now : String)
  (firstNumber : Nat)
  (written : List (String × String))

theorem run_loadCatalog
    (path : String) :
    (loadCatalog (.recording contents variableOf now firstNumber) (some path)).run written =
      match described? contents Snapshot.read? path with
      | none => (.error (.snapshot path), written)
      | some initial => (.ok (Store.ofSnapshot firstNumber initial), written) := by
  unfold loadCatalog
  dsimp only [Surroundings.recording]
  rw [Attempt.run_bind, run_lift, readFile?_recording]
  dsimp only
  cases described? contents Snapshot.read? path <;> rfl

theorem run_save
    (path text : String)
    (wrap : FileError → CommandError) :
    (save (.recording contents) path text wrap).run written =
      (.ok (), written ++ [(path, text)]) := rfl

end Recording

/-- What the ingest command does when it is asked to update the snapshot. -/
theorem ingest_recording
    {options : IngestOptions}
    (updating : options.updateSnapshot = true)
    {path : String}
    (named : options.snapshot = some path)
    (config : Config)
    (contents : String → Except FileError String)
    (variableOf : String → Option String)
    (now : String)
    (firstNumber : Nat) :
    (ingest (.recording contents variableOf now firstNumber) config options).run [] =
      match described? contents Snapshot.read? path with
      | none => (.error (.snapshot path), [])
      | some initial =>
          match (Store.ofSnapshot firstNumber initial).ingest config.service now
              config.artifacts.isSome (artifactsIn contents config) with
          | (none, _) => (.ok [], [(options.report, (Report.new config.service now).text)])
          | (some ingestion, final) =>
              (.ok (reportLines ingestion.report),
                [(options.output, ingestion.encode.pretty),
                  (options.report, ingestion.report.text), (path, final.snapshot.text)]) := by
  unfold ingest
  rw [Attempt.run_bind, named, run_loadCatalog]
  cases described? contents Snapshot.read? path with
  | none => rfl
  | some initial =>
      dsimp only [Surroundings.recording]
      rw [Attempt.run_bind, run_lift, loadArtifacts_recording]
      dsimp only
      rcases (Store.ofSnapshot firstNumber initial).ingest config.service now
        config.artifacts.isSome (artifactsIn contents config) with ⟨_ | ingestion, final⟩
      · dsimp only
        rw [Attempt.run_bind, run_save]
        rfl
      · dsimp only
        rw [updating, Attempt.run_bind, run_save]
        dsimp only
        rw [Attempt.run_bind, run_save]
        dsimp only
        rw [Attempt.run_bind, run_save]
        rfl

/-- Running the ingest command again on its own snapshot. The first run writes its requests, its
report and a snapshot; the second one finds this snapshot and the same artifacts. Then the snapshot
that it writes is equal, it requests neither suites nor definitions, and it requests the edges and
the cases of the first run in the same order, up to the identities of entities: each identity leads
to an entity of the same kind and full name as the one in its place. -/
theorem ingest_idempotent
    {config : Config}
    {options : IngestOptions}
    (updating : options.updateSnapshot = true)
    {path : String}
    (named : options.snapshot = some path)
    {contents contentsAgain : String → Except FileError String}
    {variableOf : String → Option String}
    {now output report saved : String}
    {firstNumber : Nat}
    {lines : List String}
    (ran : (ingest (.recording contents variableOf now firstNumber) config options).run [] =
      (.ok lines, [(options.output, output), (options.report, report), (path, saved)]))
    (resumed : contentsAgain path = .ok saved)
    (sameArtifacts : artifactsIn contentsAgain config = artifactsIn contents config)
    (later : String)
    (secondNumber : Nat) :
    ∃ initial first final second refinal,
      let loaded := artifactsIn contents config
      described? contents Snapshot.read? path = some initial ∧
        (Store.ofSnapshot firstNumber initial).ingest config.service now config.artifacts.isSome
            loaded = (some first, final) ∧
        output = first.encode.pretty ∧ report = first.report.text ∧
        saved = final.snapshot.text ∧ Snapshot.read? saved = some final.snapshot ∧
        (Store.ofSnapshot secondNumber final.snapshot).ingest config.service later
            config.artifacts.isSome loaded = (some second, refinal) ∧
        (ingest (.recording contentsAgain variableOf later secondNumber) config options).run [] =
          (.ok (reportLines second.report),
            [(options.output, second.encode.pretty), (options.report, second.report.text),
              (path, saved)]) ∧
        refinal.snapshot = final.snapshot ∧
        second.emitted.suites = [] ∧ second.emitted.definitions = [] ∧
        List.Forall₂ (final.SameEdge refinal) first.emitted.lineage second.emitted.lineage ∧
        List.Forall₂ (final.SameCase refinal) first.emitted.cases second.emitted.cases := by
  rw [ingest_recording updating named] at ran
  cases found : described? contents Snapshot.read? path with
  | none =>
      rw [found] at ran
      nomatch ran
  | some initial =>
      rw [found] at ran
      dsimp only at ran
      rcases ingested : (Store.ofSnapshot firstNumber initial).ingest config.service now
        config.artifacts.isSome (artifactsIn contents config) with ⟨_ | first, final⟩
      · rw [ingested] at ran
        nomatch (List.cons.inj (Prod.mk.inj ran).2).2
      · rw [ingested] at ran
        obtain ⟨-, written⟩ := Prod.mk.inj ran
        obtain ⟨sameOutput, written⟩ := List.cons.inj written
        obtain ⟨sameReport, written⟩ := List.cons.inj written
        obtain ⟨sameSaved, -⟩ := List.cons.inj written
        obtain ⟨-, rfl⟩ := Prod.mk.inj sameOutput
        obtain ⟨-, rfl⟩ := Prod.mk.inj sameReport
        obtain ⟨-, rfl⟩ := Prod.mk.inj sameSaved
        obtain ⟨second, refinal, ingestedAgain, sameSnapshot, suites, definitions, edges, cases⟩ :=
          Store.ingest_again ingested later secondNumber
        refine ⟨initial, first, final, second, refinal, rfl, ingested, rfl, rfl, rfl,
          Snapshot.read?_text final.snapshot, ingestedAgain, ?_, sameSnapshot, suites, definitions,
          edges, cases⟩
        have foundAgain : described? contentsAgain Snapshot.read? path = some final.snapshot := by
          rw [described?_of_content resumed, Snapshot.read?_text]
        rw [ingest_recording updating named, foundAgain, sameArtifacts]
        dsimp only
        rw [ingestedAgain, ← sameSnapshot]

/-- A configuration with artifacts beside it. -/
def salesConfig : Config :=
  ⟨"svc", some ⟨"manifest", "catalog", none⟩, ""⟩

/-- The options for a run that updates its snapshot. -/
def salesOptions : IngestOptions :=
  ⟨some "snapshot", true, "requests", "report"⟩

/-- A manifest with a model and a test of it, an empty catalog artifact, and a snapshot. -/
def salesContents (snapshot : Snapshot) (path : String) : Except FileError String :=
  if path = "snapshot" then .ok snapshot.text
  else if path = "catalog" then .ok "\x7b\x7d"
  else if path = "manifest" then
    .ok ("\x7b\"nodes\":\x7b\"m\":\x7b\"name\":\"orders\",\"resource_type\":\"model\"\x7d," ++
      "\"t\":\x7b\"name\":\"unique\",\"resource_type\":\"test\"," ++
      "\"depends_on\":\x7b\"nodes\":[\"m\"]\x7d,\"test_metadata\":\x7b\"name\":\"unique\"\x7d\x7d\x7d\x7d")
  else .error .notFound

/-- The first run sets up a suite and requests a case; the second one writes the same snapshot. -/
theorem ingest_idempotent_on_sales :
    let loaded := artifactsIn (salesContents .empty) salesConfig
    ∃ first final lines output report saved linesAgain outputAgain reportAgain,
      (Store.ofSnapshot 0 .empty).ingest "svc" "now" true loaded = (some first, final) ∧
        first.emitted.suites.length = 1 ∧ first.emitted.cases.length = 1 ∧
        salesOptions.updateSnapshot = true ∧ salesOptions.snapshot = some "snapshot" ∧
        (ingest (.recording (salesContents .empty) (fun _ => none) "now" 0) salesConfig
            salesOptions).run [] =
          (.ok lines, [("requests", output), ("report", report), ("snapshot", saved)]) ∧
        salesContents final.snapshot "snapshot" = .ok saved ∧
        artifactsIn (salesContents final.snapshot) salesConfig = loaded ∧
        (ingest (.recording (salesContents final.snapshot) (fun _ => none) "later" 0) salesConfig
            salesOptions).run [] =
          (.ok linesAgain,
            [("requests", outputAgain), ("report", reportAgain), ("snapshot", saved)]) := by
  intro loaded
  have counted : (((Store.ofSnapshot 0 .empty).ingest "svc" "now" true loaded).1.map fun first =>
      (first.emitted.suites.length, first.emitted.cases.length)) = some (1, 1) := by
    decide +kernel
  obtain ⟨first, final, ingested, suites, cases⟩ : ∃ first final,
      (Store.ofSnapshot 0 .empty).ingest "svc" "now" true loaded = (some first, final) ∧
        first.emitted.suites.length = 1 ∧ first.emitted.cases.length = 1 := by
    revert counted
    rcases (Store.ofSnapshot 0 .empty).ingest "svc" "now" true loaded with ⟨_ | first, final⟩
    · exact fun counted => nomatch counted
    · intro counted
      obtain ⟨suites, cases⟩ := Prod.mk.inj (Option.some.inj counted)
      exact ⟨first, final, rfl, suites, cases⟩
  have updating : salesOptions.updateSnapshot = true := rfl
  have named : salesOptions.snapshot = some "snapshot" := rfl
  have found : described? (salesContents .empty) Snapshot.read? "snapshot" = some .empty := by
    rw [described?_of_content (show salesContents .empty "snapshot" = _ from if_pos rfl),
      Snapshot.read?_text]
  have others : ∀ path, path ≠ "snapshot" →
      salesContents final.snapshot path = salesContents .empty path := by
    intro path different
    unfold salesContents
    rw [if_neg different, if_neg different]
  have same : artifactsIn (salesContents final.snapshot) salesConfig = loaded := by
    have manifest := others (salesConfig.resolve "manifest") (by decide +kernel)
    have catalog := others (salesConfig.resolve "catalog") (by decide +kernel)
    have told : ∀ contents, artifactsIn contents salesConfig =
        { manifest := described? contents Manifest.read? (salesConfig.resolve "manifest")
          catalog := described? contents CatalogArtifact.read? (salesConfig.resolve "catalog")
          runResults := none } := fun _ => rfl
    rw [show loaded = _ from told _, told]
    unfold described?
    rw [manifest, catalog]
  have ran : (ingest (.recording (salesContents .empty) (fun _ => none) "now" 0) salesConfig
      salesOptions).run [] =
        (.ok (reportLines first.report),
          [("requests", first.encode.pretty), ("report", first.report.text),
            ("snapshot", final.snapshot.text)]) := by
    rw [ingest_recording updating named, found]
    dsimp only
    rw [show salesConfig.service = "svc" from rfl, show salesConfig.artifacts.isSome = true from rfl,
      ingested]
    rfl
  have saved : salesContents final.snapshot "snapshot" = .ok final.snapshot.text := if_pos rfl
  obtain ⟨-, -, -, second, -, -, -, -, -, -, -, -, ranAgain, -⟩ :=
    ingest_idempotent updating named ran saved same "later" 0
  exact ⟨first, final, _, _, _, _, _, _, _, ingested, suites, cases, updating,
    named, ran, saved, same, ranAgain⟩

end Cli
end CatalogIngest
