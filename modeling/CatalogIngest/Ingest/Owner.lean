import CatalogIngest.Ingest.Context

/-!
# Owners

The owner of a relation is known by a name. It is sought as part of the full name of a user or a
team; the first strategy that finds an entity decides. An error of the catalog counts as not found.
-/

namespace CatalogIngest

/-- A way to read an owner's name. -/
inductive OwnerStrategy
  | user
  | team
  deriving DecidableEq, Inhabited

namespace OwnerStrategy

/-- Users before teams. -/
def standard : List OwnerStrategy := [.user, .team]

/-- The kind of entity that a strategy finds. -/
def kind : OwnerStrategy → EntityKind
  | .user => .user
  | .team => .team

/-- The request for the name that matches a pattern. -/
def request (strategy : OwnerStrategy) (pattern : String) : NameRequest :=
  match strategy with
  | .user => .user pattern
  | .team => .team pattern

/-- Look up the entity whose name matches a pattern. -/
def lookup {σ : Type} (strategy : OwnerStrategy) (context : Context σ) (pattern : String) :
    CatalogCall σ (Option EntityReference) := fun state =>
  match context.names.build (strategy.request pattern) state with
  | (.error error, state) => (.error error, state)
  | (.ok none, state) => (.ok none, state)
  | (.ok (some name), state) => context.client.reference strategy.kind name state

/-- The answer of the first strategy that finds an entity. -/
def firstFound {σ : Type} (context : Context σ) (pattern : String) :
    List OwnerStrategy → StateM σ (Option EntityReference)
  | [] => fun state => (none, state)
  | strategy :: later => fun state =>
      match strategy.lookup context pattern state with
      | (.ok (some reference), state) => (some reference, state)
      | (_, state) => firstFound context pattern later state

/-- The pattern for names that contain an owner's name. -/
def containing (owner : String) : String :=
  "*" ++ owner ++ "*"

/-- The entity that an owner's name stands for. -/
def resolve {σ : Type} (strategies : List OwnerStrategy) (context : Context σ) (owner : String) :
    StateM σ (Option EntityReference) :=
  firstFound context (containing owner) strategies

end OwnerStrategy
end CatalogIngest
