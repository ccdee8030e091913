import CatalogIngest.Proofs.Ingest.Completeness

/-!
# Ingesting again

When artifacts are ingested again into a catalog that was opened from the snapshot of the first
ingestion, every suite and definition is there already, look-ups find the same as before, and so the
same edges and cases are requested. The snapshot stays as it is.
-/

namespace CatalogIngest

/-! ## A catalog after an execution -/

/-- After a run was executed on one catalog, another one is opened that holds the listed names which
the first one then holds. -/
structure Run.Reopens (run : Run Store) (service : String) (base reopened : Store) : Prop where
  sound : base.Sound
  noFaults : base.faults = .empty
  soundAgain : reopened.Sound
  noFaultsAgain : reopened.faults = .empty
  holds : ∀ kind fullName, kind ≠ .dataModel →
    reopened.contains kind fullName = (run.filledStore service base).contains kind fullName

namespace Run.Reopens

variable
  {run : Run Store}
  {service : String}
  {base reopened : Store}
  (reopens : run.Reopens service base reopened)

include reopens

/-- Once the first run has set up suites and definitions, look-ups find the same. -/
theorem isSome_found?_preparedStore
    {kind : EntityKind}
    (listed : kind ≠ .dataModel)
    (noCase : kind ≠ .testCase)
    (fullName : String) :
    ((run.preparedStore service base).found? kind fullName).isSome =
      (reopened.found? kind fullName).isSome := by
  have preparedFaults : (run.preparedStore service base).faults = .empty :=
    (run.faults_preparedStore base).trans reopens.noFaults
  rw [Store.isSome_found? preparedFaults, Store.isSome_found? reopens.noFaultsAgain,
    reopens.holds _ _ listed]
  unfold Store.contains
  rw [entity?_filledStore run service base noCase]

/-- The first run adds no tables. -/
theorem contains_table
    (fullName : String) :
    base.contains .table fullName = reopened.contains .table fullName := by
  rw [reopens.holds _ _ (by decide)]
  unfold Store.contains
  rw [entity?_filledStore run service base (by decide), entity?_table_preparedStore]

theorem forall₂_edges
    (pairs : List LineagePair) :
    List.Forall₂ (base.SameEdge reopened) (pairs.filterMap base.edgeOf)
      (pairs.filterMap reopened.edgeOf) := by
  apply Store.forall₂_filterMap
  intro pair _
  apply Store.rel_edgeOf reopens.sound reopens.soundAgain
  intro fullName
  rw [Store.isSome_found? reopens.noFaults, Store.isSome_found? reopens.noFaultsAgain]
  exact reopens.contains_table fullName

theorem forall₂_caseRequests :
    List.Forall₂ ((run.preparedStore service base).SameCase reopened)
      (run.caseRequests service (run.preparedStore service base))
      (run.caseRequests service reopened) := by
  refine List.rel_filter ?_ (Store.forall₂_flatMap _ fun entry _ => ?_)
  · intro first second same
    dsimp only
    rw [same.link, ← reopens.contains_table]
    unfold Store.contains
    rw [entity?_table_preparedStore]
  · apply TestMapping.forall₂_casesOf
    apply TestMapping.rel_partsIn
    · exact reopens.isSome_found?_preparedStore (by decide) (by decide) _
    · exact reopens.isSome_found?_preparedStore (by decide) (by decide) _

/-! ## A second execution -/

section Again

variable
  {again : Run Store}
  {artifacts : MergedArtifacts}
  (prepared : run.PreparedFrom service artifacts)
  (preparedAgain : again.PreparedFrom service artifacts)

include prepared preparedAgain

omit reopens in
theorem caseRequests_again
    (store : Store) :
    again.caseRequests service store = run.caseRequests service store := by
  unfold caseRequests TestMapping.casesOf TestMapping.dependenciesOf mapping
  rw [prepared.tests, preparedAgain.tests]
  dsimp only
  rw [prepared.merged, preparedAgain.merged]

/-- Nothing is left to set up. -/
theorem setupRequests_again :
    again.setupRequests service reopened = [] := by
  apply List.eq_nil_iff_forall_not_mem.mpr
  intro request member
  obtain ⟨⟨entry, among, made, named⟩, nonempty, absent⟩ := of_mem_setupRequests member
  rw [preparedAgain.tests, ← prepared.tests] at among
  rw [named] at nonempty absent
  have unfaulted := Store.unfaulted reopens.noFaults (request.kind.nameFor entry.2)
  have present : (run.preparedStore service base).contains request.kind.entity
      (request.kind.nameFor entry.2) = true :=
    contains_setup (.refl base) among unfaulted made nonempty
  have listed : request.kind.entity ≠ .dataModel := by
    cases request.kind <;> decide
  have noCase : request.kind.entity ≠ .testCase := by
    cases request.kind <;> decide
  rw [reopens.holds _ _ listed, Store.contains, entity?_filledStore run service base noCase]
    at absent
  rw [Store.contains, absent] at present
  cases present

theorem preparedStore_again :
    again.preparedStore service reopened = reopened := by
  unfold preparedStore
  rw [reopens.setupRequests_again prepared preparedAgain]
  rfl

/-- The second run registers no name that is not there already. -/
theorem contains_filledStore_again
    {kind : EntityKind}
    (listed : kind ≠ .dataModel)
    (fullName : String) :
    (again.filledStore service reopened).contains kind fullName = true ↔
      reopened.contains kind fullName = true := by
  have sameEntries :
      (again.caseRequests service reopened).map Store.caseEntry =
        (run.caseRequests service (run.preparedStore service base)).map Store.caseEntry := by
    rw [caseRequests_again prepared preparedAgain, ← List.forall₂_eq_eq_eq,
      List.forall₂_map_left_iff, List.forall₂_map_right_iff]
    refine reopens.forall₂_caseRequests.flip.imp fun second first same => ?_
    unfold Store.caseEntry
    rw [same.link, same.name]
  unfold filledStore
  dsimp only
  rw [reopens.preparedStore_again prepared preparedAgain, sameEntries, Store.contains_addEach]
  apply or_iff_right_of_imp
  intro member
  rw [reopens.holds _ _ listed]
  exact (Store.contains_addEach _ _ _ _).mpr (.inl member)

/-- What the second execution requests and leaves behind, beside the first one. -/
theorem execute_again
    (report reportAgain : Report) :
    let first := run.execute Store.sink report base
    let second := again.execute Store.sink reportAgain reopened
    second.2.snapshot = first.2.snapshot ∧
      second.1.1.suites = [] ∧ second.1.1.definitions = [] ∧
      List.Forall₂ (first.2.SameEdge second.2) first.1.1.lineage second.1.1.lineage ∧
      List.Forall₂ (first.2.SameCase second.2) first.1.1.cases second.1.1.cases := by
  intro first second
  obtain ⟨requested, alike, grown⟩ := execute_requestsOn prepared.inMemory report base
  obtain ⟨requestedAgain, alikeAgain, grownAgain⟩ :=
    execute_requestsOn preparedAgain.inMemory reportAgain reopened
  change first.2.AnswersLike _ at alike
  change second.2.AnswersLike _ at alikeAgain
  have settled := reopens.setupRequests_again prepared preparedAgain
  have kept : (run.preparedStore service base).KeepsReferences first.2 :=
    (Store.grows_addEach _ _).keepsReferences.trans_answersLike alike
  have samePairs : LineagePair.ofModels again.models = LineagePair.ofModels run.models := by
    rw [preparedAgain.pairs_eq, prepared.pairs_eq]
  rw [show first.1.1 = _ from requested, show second.1.1 = _ from requestedAgain]
  unfold requestsOn
  rw [settled, reopens.preparedStore_again prepared preparedAgain, samePairs,
    caseRequests_again prepared preparedAgain]
  refine ⟨?_, rfl, rfl, ?_, ?_⟩
  · apply Store.snapshot_eq_of_contains_iff
    intro kind fullName listed
    rw [alike.contains, alikeAgain.contains,
      reopens.contains_filledStore_again prepared preparedAgain listed, reopens.holds _ _ listed]
  · exact (reopens.forall₂_edges _).imp fun _ _ same =>
      same.later grown.toExtends.keepsReferences grownAgain.toExtends.keepsReferences
  · exact reopens.forall₂_caseRequests.imp fun _ _ same =>
      same.later kept grownAgain.toExtends.keepsReferences

end Again
end Run.Reopens

/-! ## A second ingestion -/

/-- The catalog in which a second ingestion executes its run holds the listed names that the first
one left behind. -/
theorem Run.PreparedFrom.reopens
    {run again : Run Store}
    {service : String}
    {artifacts : MergedArtifacts}
    (prepared : run.PreparedFrom service artifacts)
    (preparedAgain : again.PreparedFrom service artifacts)
    (firstNumber secondNumber : Nat)
    (initial : Snapshot)
    (report : Report) :
    let base := (Store.ofSnapshot firstNumber initial).registerModels run.models.keys
    let final := (run.execute Store.sink report base).2
    run.Reopens service base
      ((Store.ofSnapshot secondNumber final.snapshot).registerModels again.models.keys) := by
  intro base final
  obtain ⟨-, alike, grown⟩ := execute_requestsOn prepared.inMemory report base
  change final.AnswersLike _ at alike
  have sameKeys : ∀ fullName, fullName ∈ again.models.keys ↔ fullName ∈ run.models.keys := by
    intro fullName
    rw [prepared.mem_keys_iff, preparedAgain.mem_keys_iff]
  refine ⟨?_, ?_, ?_, ?_, ?_⟩
  · exact (Store.grows_registerModels _ _).sound (Store.sound_ofSnapshot firstNumber initial)
  · exact (Store.faults_registerModels _ _).trans (Store.faults_ofSnapshot firstNumber initial)
  · exact (Store.grows_registerModels _ _).sound (Store.sound_ofSnapshot secondNumber _)
  · exact (Store.faults_registerModels _ _).trans (Store.faults_ofSnapshot secondNumber _)
  · intro kind fullName listed
    rw [Bool.eq_iff_iff, Store.contains_registerModels _ _ listed, Store.contains_ofSnapshot,
      Store.namesOf_snapshot final listed, ← Store.contains_iff_mem_names, alike.contains]
    apply or_iff_right_of_imp
    rintro ⟨rfl, member⟩
    rw [← alike.contains]
    apply grown.toExtends.contains
    exact (Store.contains_registerModels _ _ listed _).mpr (.inl ⟨rfl, (sameKeys _).mp member⟩)

/-- An ingestion from the snapshot that an ingestion of the same artifacts left behind. -/
theorem Store.ingest_again
    {service : String}
    {wanted : Bool}
    {loaded : LoadedArtifacts}
    {firstTime : String}
    {firstNumber : Nat}
    {initial : Snapshot}
    {first : Ingestion}
    {final : Store}
    (ingested : (Store.ofSnapshot firstNumber initial).ingest service firstTime wanted loaded =
      (some first, final))
    (secondTime : String)
    (secondNumber : Nat) :
    ∃ second refinal,
      (Store.ofSnapshot secondNumber final.snapshot).ingest service secondTime wanted loaded =
          (some second, refinal) ∧
        refinal.snapshot = final.snapshot ∧
          second.emitted.suites = [] ∧ second.emitted.definitions = [] ∧
            List.Forall₂ (final.SameEdge refinal) first.emitted.lineage second.emitted.lineage ∧
              List.Forall₂ (final.SameCase refinal) first.emitted.cases second.emitted.cases := by
  obtain ⟨manifest, catalog, run, asked, hasManifest, hasCatalog, -, prepared, whole⟩ |
    ⟨-, none⟩ :=
    (Store.ofSnapshot firstNumber initial).ingest_cases service firstTime wanted loaded
  · cases ingested.symm.trans whole
    obtain ⟨_, _, again, -, hasManifestAgain, hasCatalogAgain, -, preparedAgain, wholeAgain⟩ |
      ⟨missing, -⟩ := (Store.ofSnapshot secondNumber _).ingest_cases service secondTime wanted loaded
    · cases hasManifest.symm.trans hasManifestAgain
      cases hasCatalog.symm.trans hasCatalogAgain
      have reopens := prepared.reopens preparedAgain firstNumber secondNumber initial
        (Report.new service firstTime)
      exact ⟨_, _, wholeAgain, reopens.execute_again prepared preparedAgain _ _⟩
    · rw [asked, hasManifest, hasCatalog] at missing
      rcases missing with missing | missing | missing <;> nomatch missing
  · nomatch ingested.symm.trans none

end CatalogIngest
