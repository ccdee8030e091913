import CatalogIngest.Name.Request
import CatalogIngest.TestRequest
import CatalogIngest.TestResult

/-!
# Access to a metadata catalog

A run sees the catalog through three groups of operations: looking entities up and submitting
results, building names, and applying requests. The operations may change a state of any type and
may answer anything.
-/

namespace CatalogIngest

/-- The kind of an error that a catalog answers with. -/
inductive CatalogErrorKind
  | authentication
  | notFound
  | permissionDenied
  | request
  | invalidRequest
  | invalidResponse
  | network
  deriving DecidableEq, Inhabited

/-- An error that a catalog answers with. -/
structure CatalogError where
  kind : CatalogErrorKind
  text : String
  deriving DecidableEq, Inhabited

namespace CatalogErrorKind

/-- The words for a kind of error. -/
def phrase : CatalogErrorKind → String
  | .authentication => "Authentication failed"
  | .notFound => "Entity not found"
  | .permissionDenied => "Permission denied"
  | .request => "Request failed"
  | .invalidRequest => "Invalid request"
  | .invalidResponse => "Invalid response"
  | .network => "Network error"

end CatalogErrorKind

namespace CatalogError

/-- The text of an error. -/
def message (error : CatalogError) : String :=
  error.kind.phrase ++ ": " ++ error.text

end CatalogError

/-- What an operation of a catalog with a state answers. -/
abbrev CatalogCall (σ α : Type) := StateM σ (Except CatalogError α)

namespace CatalogCall

variable {σ α β : Type}

/-- Answer without touching the catalog. -/
def answer (result : Except CatalogError α) : CatalogCall σ α :=
  fun state => (result, state)

/-- Transform what an operation finds. -/
def mapFound (transform : α → β) (call : CatalogCall σ α) : CatalogCall σ β := fun state =>
  ((call state).1.map transform, (call state).2)

end CatalogCall

/-- Looking entities up and submitting test results. -/
structure Client (σ : Type) where
  name : String
  lookup : EntityKind → String → CatalogCall σ (Option Entity)
  submit : String → TestResult → CatalogCall σ Unit

/-- Building fully qualified names; a request that matches nothing has none. -/
structure NameBuilder (σ : Type) where
  build : NameRequest → CatalogCall σ (Option String)

/-- Applying requests. -/
structure Sink (σ : Type) where
  addLineage : LineageRequest → CatalogCall σ Unit
  createSuite : SuiteRequest → CatalogCall σ Entity
  createDefinition : DefinitionRequest → CatalogCall σ Entity
  createCase : CaseRequest → CatalogCall σ Entity

namespace Client

variable {σ : Type}

/-- Look up the reference to an entity. -/
def reference (client : Client σ) (kind : EntityKind) (name : String) :
    CatalogCall σ (Option EntityReference) :=
  CatalogCall.mapFound (Option.map Entity.reference) (client.lookup kind name)

end Client

namespace NameBuilder

variable {σ : Type}

/-- Answer some requests with a fixed answer instead. -/
def intercept (builder : NameBuilder σ)
    (answer? : NameRequest → Option (Except CatalogError (Option String))) : NameBuilder σ where
  build request :=
    match answer? request with
    | some answer => CatalogCall.answer answer
    | none => builder.build request

end NameBuilder

namespace Sink

variable {σ : Type}

/-- The keys by which requests to a sink are told apart. -/
inductive Key
  | lineage
  | suite (name : String)
  | definition (name : String)
  | case (link : EntityLink)

/-- Refuse the requests of some keys. -/
def refuse (sink : Sink σ) (error? : Key → Option CatalogError) : Sink σ where
  addLineage request :=
    match error? .lineage with
    | some error => CatalogCall.answer (.error error)
    | none => sink.addLineage request
  createSuite request :=
    match error? (.suite request.name) with
    | some error => CatalogCall.answer (.error error)
    | none => sink.createSuite request
  createDefinition request :=
    match error? (.definition request.name) with
    | some error => CatalogCall.answer (.error error)
    | none => sink.createDefinition request
  createCase request :=
    match error? (.case request.link) with
    | some error => CatalogCall.answer (.error error)
    | none => sink.createCase request

end Sink
end CatalogIngest
