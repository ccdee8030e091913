import CatalogIngest.Catalog.Client
import CatalogIngest.DataType
import CatalogIngest.Failure

/-!
# What a run works with

A run knows the service it ingests into, asks a catalog client and a builder of names, and reads
warehouse types. A question that the catalog answers with an error, or with nothing where something
is needed, becomes a failure.
-/

namespace CatalogIngest

/-- The collaborators of a run. -/
structure Context (σ : Type) where
  service : String
  client : Client σ
  names : NameBuilder σ
  readType : String → DataType

/-- A computation on the state of a catalog that may end in a failure. -/
abbrev Attempt (σ α : Type) := ExceptT Failure (StateM σ) α

namespace Context

variable {σ : Type}

/-- The failure for an error of the catalog, and for an answer that is missing. -/
def orFail {α : Type} (stage : Stage) (subject missing : String) :
    Except CatalogError (Option α) → Except Failure α
  | .error error => .error (.external stage subject error.message)
  | .ok none => .error (.miss stage subject missing)
  | .ok (some found) => .ok found

/-- Build a name that must exist. -/
def requireName (context : Context σ) (request : NameRequest) (stage : Stage)
    (subject : String) : Attempt σ String :=
  ExceptT.mk fun state =>
    let (answer, state) := context.names.build request state
    (orFail stage subject ("no fully qualified name for " ++ request.shown) answer, state)

/-- Look up an entity that must exist. -/
def requireEntity (context : Context σ) (kind : EntityKind) (name : String) (stage : Stage)
    (subject : String) : Attempt σ Entity :=
  ExceptT.mk fun state =>
    let (answer, state) := context.client.lookup kind name state
    (orFail stage subject (kind.name ++ " '" ++ name ++ "' not found") answer, state)

/-- Ask whether an entity exists. -/
def entityExists (context : Context σ) (kind : EntityKind) (name : String) (stage : Stage)
    (subject : String) : Attempt σ Bool :=
  ExceptT.mk fun state =>
    let (answer, state) := context.client.lookup kind name state
    match answer with
    | .error error => (.error (.external stage subject error.message), state)
    | .ok found => (.ok found.isSome, state)

/-- The text that shows a context. -/
def shown (context : Context σ) : String :=
  NameRequest.shownCase "IngestionContext"
    [NameRequest.shownField "service_name" context.service,
      NameRequest.shownField "catalog" context.client.name]

end Context
end CatalogIngest
