import CatalogIngest.Artifact.Merge
import CatalogIngest.DataModel
import CatalogIngest.Ingest.Outcome
import CatalogIngest.Ingest.Owner

/-!
# Resolving data models

Every node that is not a test becomes a data model under the full name of its table: its columns come
from the catalog artifact with documentation from the manifest, its parent tables from its
dependencies, its owner from the relation's owner. What cannot be resolved is left out and reported.
-/

namespace CatalogIngest

/-- The data models by full name, the test nodes by key, and what was left out. -/
structure ResolvedModels where
  models : SortedMap DataModel
  tests : SortedMap ManifestNode
  failures : List Failure
  deriving Inhabited

/-- How data models are resolved: from which artifacts, and by which owner strategies. -/
structure ModelResolver (σ : Type) where
  context : Context σ
  artifacts : MergedArtifacts
  owners : List OwnerStrategy

/-- What the resolution of one node contributes. -/
structure NodeOutcome where
  failures : List Failure
  model : Except Failure (String × DataModel)

/-- Insert an item behind those with a position that is not greater. -/
def insertByPosition (column : Column) : List Column → List Column
  | [] => [column]
  | first :: later =>
      if column.position < first.position then column :: first :: later
      else first :: insertByPosition column later

/-- Columns by position, equal positions in their given order. -/
def sortByPosition (columns : List Column) : List Column :=
  columns.foldl (fun sorted column => insertByPosition column sorted) []

namespace ModelResolver

variable {σ : Type}

/-- One column, from its place in the catalog artifact and its documentation. The manifest's text
comes before the comment in the warehouse. -/
def column (resolver : ModelResolver σ) (node : ManifestNode) (found : CatalogColumn) : Column :=
  let description := match node.columnDescription found.name with
    | some text => some text
    | none => nonempty? found.comment
  .of found.name (resolver.context.readType found.dataType) found.index description

/-- Each column of a relation, or the failure for one that does not decode. -/
def columnOutcomes (resolver : ModelResolver σ) (node : ManifestNode) (relation : CatalogNode) :
    List (Except Failure Column) :=
  relation.decodedColumns.map fun entry =>
    match entry.2 with
    | .ok found => .ok (resolver.column node found)
    | .error error =>
        .error (.shape .dataModel (node.uniqueId ++ "." ++ entry.1)
          ("malformed catalog column: " ++ error.message))

/-- The columns of a node in order of position, and the failures among them. A node without a
relation has no columns. -/
def columns (resolver : ModelResolver σ) (node : ManifestNode) (relation : Option CatalogNode) :
    List Column × List Failure :=
  match relation with
  | none => ([], [])
  | some relation =>
      let outcomes := resolver.columnOutcomes node relation
      (sortByPosition (successes outcomes), failuresAmong outcomes)

/-- The full name of the table that a dependency builds. -/
def parentName (resolver : ModelResolver σ) (node : ManifestNode) (dependency : String) :
    Attempt σ String :=
  match resolver.artifacts.manifest.get? dependency with
  | none =>
      throw (.shape .dataModel dependency
        ("dependency of '" ++ node.uniqueId ++ "' not found in manifest"))
  | some parent =>
      resolver.context.requireName (parent.address.tableRequest resolver.context.service)
        .dataModel dependency

/-- The full names of a node's parent tables, in the order of its dependencies. -/
def parents (resolver : ModelResolver σ) (node : ManifestNode) :
    StateM σ (List (Except Failure String)) :=
  outcomesOf (node.dependsOn.map (resolver.parentName node))

/-- The owner of a relation, if an entity is found for it. -/
def owner (resolver : ModelResolver σ) (relation : Option CatalogNode) :
    StateM σ (Option EntityReference) :=
  match relation.bind CatalogNode.owner with
  | none => fun state => (none, state)
  | some name => OwnerStrategy.resolve resolver.owners resolver.context name

/-- The data model of a node, from its resolved parts. -/
def assemble (node : ManifestNode) (columns : List Column) (parents : List String)
    (owner : Option EntityReference) : DataModel :=
  let rawSql := node.rawSql.getD ""
  { modelType := .dbt
    description := node.descriptionText
    path := node.sourcePath
    rawSql := rawSql
    sql := node.compiledSql.getD rawSql
    columns := columns
    parents := parents
    owner := owner }

/-- Resolve one node. -/
def resolveNode (resolver : ModelResolver σ) (key : String) (node : ManifestNode) :
    StateM σ NodeOutcome := fun state =>
  let relation := resolver.artifacts.catalog.get? key
  let (columns, columnFailures) := resolver.columns node relation
  let (parents, state) := resolver.parents node state
  let (owner, state) := resolver.owner relation state
  let model := assemble node columns (successes parents) owner
  let (name, state) :=
    (resolver.context.requireName (node.address.dataModelRequest resolver.context.service)
      .dataModel key).run state
  (⟨columnFailures ++ failuresAmong parents, name.map fun name => (name, model)⟩, state)

/-- Add what a node contributes. -/
def addOutcome (resolved : ResolvedModels) (outcome : NodeOutcome) : ResolvedModels :=
  match outcome.model with
  | .ok (name, model) =>
      { resolved with
        models := resolved.models.insert name model
        failures := resolved.failures ++ outcome.failures }
  | .error failure =>
      { resolved with failures := resolved.failures ++ outcome.failures ++ [failure] }

/-- Resolve nodes one after another, setting tests aside. -/
def resolveNodes (resolver : ModelResolver σ) :
    List (String × ManifestNode) → ResolvedModels → StateM σ ResolvedModels
  | [], resolved => fun state => (resolved, state)
  | (key, node) :: later, resolved => fun state =>
      if node.isTest then resolver.resolveNodes later resolved state
      else
        let (outcome, state) := resolver.resolveNode key node state
        resolver.resolveNodes later (addOutcome resolved outcome) state

/-- Resolve every node of the manifest, in key order. -/
def resolveAll (resolver : ModelResolver σ) : StateM σ ResolvedModels :=
  resolver.resolveNodes resolver.artifacts.manifest.entries
    ⟨.empty, resolver.artifacts.manifest.filter ManifestNode.isTest, []⟩

end ModelResolver
end CatalogIngest
