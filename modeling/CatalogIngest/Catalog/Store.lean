import CatalogIngest.Catalog.Client
import CatalogIngest.Catalog.Identifier
import CatalogIngest.Name.Dotted
import CatalogIngest.Text.Glob

/-!
# The in-memory catalog

A catalog that keeps entities, lineage edges and test results in memory. Entities are kept by kind
and full name, and once present never change. Errors can be set for single names: they answer
look-ups and submissions for those names, and nothing else.
-/

namespace CatalogIngest

/-- The content of an in-memory catalog. -/
structure Store where
  entities : PerKind (SortedMap Entity)
  lineage : List LineageEdge
  results : SortedMap (List TestResult)
  faults : SortedMap CatalogError
  nextNumber : Nat
  deriving DecidableEq

namespace Store

/-- A catalog without content that numbers its entities from a given number on. -/
def empty (firstNumber : Nat) : Store :=
  ⟨.const .empty, [], .empty, .empty, firstNumber⟩

/-- The display name of an entity: the whole name of a user or team, else the last part. -/
def displayName (kind : EntityKind) (fullName : String) : String :=
  match kind with
  | .user => fullName
  | .team => fullName
  | _ => Name.lastPart fullName

/-- The entity of a kind and full name. -/
def entity? (store : Store) (kind : EntityKind) (fullName : String) : Option Entity :=
  (store.entities.get kind).get? fullName

/-- Register an entity, or find the one that already has the name. -/
def addEntity (store : Store) (kind : EntityKind) (fullName : String) : Entity × Store :=
  match store.entity? kind fullName with
  | some entity => (entity, store)
  | none =>
      let entity : Entity :=
        ⟨.ofNumber store.nextNumber, kind, displayName kind fullName, fullName⟩
      (entity,
        { store with
          entities := store.entities.set kind ((store.entities.get kind).insert fullName entity)
          nextNumber := store.nextNumber + 1 })

/-- Register several entities of one kind. -/
def addAll (store : Store) (kind : EntityKind) (fullNames : List String) : Store :=
  fullNames.foldl (fun current fullName => (current.addEntity kind fullName).2) store

/-- Set the error that answers look-ups and submissions for a name. -/
def addFault (store : Store) (name : String) (error : CatalogError) : Store :=
  { store with faults := store.faults.insert name error }

/-- Whether there is an entity of a kind and full name. -/
def contains (store : Store) (kind : EntityKind) (fullName : String) : Bool :=
  (store.entity? kind fullName).isSome

/-- The full names of the entities of a kind, in increasing order. -/
def names (store : Store) (kind : EntityKind) : List String :=
  (store.entities.get kind).keys

/-- The number of entities of a kind. -/
def count (store : Store) (kind : EntityKind) : Nat :=
  (store.entities.get kind).size

/-- The results submitted to a test case, oldest first. -/
def resultsOf (store : Store) (fullName : String) : List TestResult :=
  (store.results.get? fullName).getD []

/-- Look up an entity, unless an error is set for the name. -/
def lookup (store : Store) (kind : EntityKind) (fullName : String) :
    Except CatalogError (Option Entity) :=
  match store.faults.get? fullName with
  | some error => .error error
  | none => .ok (store.entity? kind fullName)

/-- Append a result to a test case, unless an error is set for the name. -/
def submit (store : Store) (fullName : String) (result : TestResult) :
    Except CatalogError Unit × Store :=
  match store.faults.get? fullName with
  | some error => (.error error, store)
  | none =>
      if store.contains .testCase fullName then
        (.ok (),
          { store with
            results := store.results.insert fullName (store.resultsOf fullName ++ [result]) })
      else (.error ⟨.notFound, fullName⟩, store)

/-- The name of a request: the joined parts of a hierarchy, or the least full name of a user or team
that matches the pattern. -/
def build (store : Store) (request : NameRequest) : Option String :=
  match request.hierarchy?, request.pattern? with
  | some parts, _ => some (Name.join parts)
  | none, some pattern =>
      (store.names request.kind).find? fun fullName =>
        Text.globMatches pattern.toList fullName.toList
  | none, none => none

/-- Record an edge once. -/
def addLineage (store : Store) (request : LineageRequest) : Store :=
  if request.edge ∈ store.lineage then store
  else { store with lineage := store.lineage ++ [request.edge] }

/-- Create a suite, or find the one of the name. -/
def createSuite (store : Store) (request : SuiteRequest) : Except CatalogError Entity × Store :=
  if request.name.isEmpty then (.error ⟨.invalidRequest, "test suite name is empty"⟩, store)
  else
    let (entity, store) := store.addEntity .testSuite request.name
    (.ok entity, store)

/-- Create a definition, or find the one of the name. -/
def createDefinition (store : Store) (request : DefinitionRequest) :
    Except CatalogError Entity × Store :=
  if request.name.isEmpty then (.error ⟨.invalidRequest, "test definition name is empty"⟩, store)
  else
    let (entity, store) := store.addEntity .testDefinition request.name
    (.ok entity, store)

/-- The full name of a test case: the name of its table, its column if any, and its own name. -/
def caseName (link : EntityLink) (name : String) : String :=
  ".".intercalate ([link.table] ++ (link.column.map Name.quote).toList ++ [Name.quote name])

/-- Create a test case below the table of its link, or find the one of the name. -/
def createCase (store : Store) (request : CaseRequest) : Except CatalogError Entity × Store :=
  if store.contains .table request.link.table then
    let (entity, store) := store.addEntity .testCase (caseName request.link request.name)
    (.ok entity, store)
  else (.error ⟨.notFound, request.link.table⟩, store)

/-- The catalog as a client. -/
def client : Client Store where
  name := "InMemory"
  lookup kind fullName := fun store => (store.lookup kind fullName, store)
  submit fullName result := fun store => store.submit fullName result

/-- The catalog as a builder of names. -/
def nameBuilder : NameBuilder Store where
  build request := fun store => (.ok (store.build request), store)

/-- The catalog as a receiver of requests. -/
def sink : Sink Store where
  addLineage request := fun store => (.ok (), store.addLineage request)
  createSuite request := fun store => store.createSuite request
  createDefinition request := fun store => store.createDefinition request
  createCase request := fun store => store.createCase request

end Store
end CatalogIngest
