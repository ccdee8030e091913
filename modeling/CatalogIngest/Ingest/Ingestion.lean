import CatalogIngest.Catalog.Store
import CatalogIngest.DataType.Reader
import CatalogIngest.Ingest.Run

/-!
# Ingestion into the in-memory catalog

The whole of an ingestion: prepare a run, register a table and a data model for each resolved model,
then execute the run with the catalog as its client, its builder of names and its receiver.
-/

namespace CatalogIngest

/-- What an ingestion resolved, what the catalog accepted, and the report on it. -/
structure Ingestion where
  models : SortedMap DataModel
  emitted : EmittedRequests
  report : Report

/-- The in-memory catalog as the only collaborator of a run. -/
def Context.inMemory (service : String) : Context Store :=
  ⟨service, Store.client, Store.nameBuilder, DataType.read⟩

namespace Store

/-- Register a table and a data model under each of some names. -/
def registerModels (store : Store) (names : List String) : Store :=
  names.foldl
    (fun current name => ((current.addEntity .table name).2.addEntity .dataModel name).2) store

/-- Ingest artifacts, if a run on them can be prepared. -/
def ingest (service generatedAt : String) (wanted : Bool) (loaded : LoadedArtifacts) :
    StateM Store (Option Ingestion) := fun store =>
  match Run.prepare (Context.inMemory service) wanted loaded store with
  | (none, store) => (none, store)
  | (some run, store) =>
      let store := store.registerModels run.models.keys
      let ((emitted, report), store) :=
        run.execute Store.sink (Report.new service generatedAt) store
      (some ⟨run.models, emitted, report⟩, store)

end Store

namespace Ingestion

/-- The JSON form of an ingestion: the data models by name, then the accepted requests. -/
def encode (ingestion : Ingestion) : Json.Value :=
  .object
    (("data_models", .object (ingestion.models.map DataModel.encode).entries) ::
      ingestion.emitted.members)

end Ingestion
end CatalogIngest
