import CatalogIngest.Json.Decoder

/-!
# Kinds of entity
-/

namespace CatalogIngest

/-- A kind of entity that the metadata catalog holds. -/
inductive EntityKind
  | table
  | dataModel
  | user
  | team
  | testSuite
  | testDefinition
  | testCase
  deriving DecidableEq, Inhabited

namespace EntityKind

/-- The name of a kind. -/
def name : EntityKind → String
  | .table => "table"
  | .dataModel => "dataModel"
  | .user => "user"
  | .team => "team"
  | .testSuite => "testSuite"
  | .testDefinition => "testDefinition"
  | .testCase => "testCase"

/-- All kinds. -/
def all : List EntityKind :=
  [.table, .dataModel, .user, .team, .testSuite, .testDefinition, .testCase]

/-- The JSON form of a kind is its name. -/
def encode (kind : EntityKind) : Json.Value :=
  .string kind.name

/-- Decode a kind from its name. -/
def decode : Json.Decoder EntityKind :=
  .choice (all.map fun kind => (kind.name, kind))

end EntityKind

/-- One value for each kind of entity. -/
structure PerKind (α : Type) where
  table : α
  dataModel : α
  user : α
  team : α
  testSuite : α
  testDefinition : α
  testCase : α
  deriving DecidableEq

namespace PerKind

variable {α : Type}

/-- The same value for every kind. -/
def const (value : α) : PerKind α :=
  ⟨value, value, value, value, value, value, value⟩

/-- The value of a kind. -/
def get (values : PerKind α) : EntityKind → α
  | .table => values.table
  | .dataModel => values.dataModel
  | .user => values.user
  | .team => values.team
  | .testSuite => values.testSuite
  | .testDefinition => values.testDefinition
  | .testCase => values.testCase

/-- Replace the value of a kind. -/
def set (values : PerKind α) (kind : EntityKind) (value : α) : PerKind α :=
  match kind with
  | .table => { values with table := value }
  | .dataModel => { values with dataModel := value }
  | .user => { values with user := value }
  | .team => { values with team := value }
  | .testSuite => { values with testSuite := value }
  | .testDefinition => { values with testDefinition := value }
  | .testCase => { values with testCase := value }

@[simp] theorem get_const (value : α) (kind : EntityKind) : (const value).get kind = value := by
  cases kind <;> rfl

@[simp] theorem get_set_same (values : PerKind α) (kind : EntityKind) (value : α) :
    (values.set kind value).get kind = value := by
  cases kind <;> rfl

theorem get_set_other (values : PerKind α) {kind other : EntityKind} (different : other ≠ kind)
    (value : α) : (values.set kind value).get other = values.get other := by
  cases kind <;> cases other <;> simp_all [get, set]

end PerKind
end CatalogIngest
