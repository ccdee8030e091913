import CatalogIngest.DataModel
import CatalogIngest.Ingest.Context
import CatalogIngest.Ingest.Sequence

/-!
# Lineage

For each data model and each of its parent tables one edge leads from the parent to the model's
table. Both tables must be known to the catalog; each edge fails on its own.
-/

namespace CatalogIngest

/-- The full names of a parent table and of the table built from it. -/
structure LineagePair where
  parent : String
  model : String
  deriving DecidableEq, Inhabited

namespace LineagePair

/-- The pairs of some data models, in the order of the models. -/
def ofModels (models : SortedMap DataModel) : List LineagePair :=
  models.entries.flatMap fun entry => entry.2.parents.map fun parent => ⟨parent, entry.1⟩

/-- The text that names a pair in failures. -/
def subject (pair : LineagePair) : String :=
  pair.parent ++ " -> " ++ pair.model

/-- The request for the edge of a pair. -/
def request {σ : Type} (context : Context σ) (pair : LineagePair) : Attempt σ LineageRequest := do
  let source ← context.requireEntity .table pair.parent .lineage pair.subject
  let target ← context.requireEntity .table pair.model .lineage pair.subject
  return ⟨⟨.ofKind source.id .table, .ofKind target.id .table⟩⟩

end LineagePair

/-- The sequence of lineage requests. -/
abbrev LineageSequence (σ : Type) :=
  LazySequence σ LineagePair Unit (Except Failure LineageRequest)

/-- The lineage requests of some data models. -/
def lineageSequence {σ : Type} (context : Context σ) (models : SortedMap DataModel) :
    LineageSequence σ :=
  .ofJobs
    (fun _ pair state =>
      let (item, state) := (pair.request context).run state
      (([item], ()), state))
    () (LineagePair.ofModels models)

end CatalogIngest
