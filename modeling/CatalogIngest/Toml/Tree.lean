import CatalogIngest.Toml.Value

/-!
# Building TOML tables

Tables are opened by headers, implied by the paths of headers, or implied by dotted keys. A header
may take over a table that an earlier header implied; no table is opened twice, a dotted key may
only go through tables that were implied, and no key is given twice.
-/

namespace CatalogIngest
namespace Toml

/-- How a table came about. -/
inductive Origin
  | header
  | impliedByHeader
  | impliedByKey
  deriving DecidableEq

/-- What stands under a key: a value, a table, or a list of tables with the latest first. -/
inductive Entry
  | value (value : Value)
  | table (origin : Origin) (members : List (String × Entry))
  | tables (latest : List (String × Entry)) (earlier : List (List (String × Entry)))
  deriving Inhabited

/-- The members of a table, in the order of their first mention. -/
abbrev Members := List (String × Entry)

namespace Members

/-- Replace the entry of a key, or add one at the end. -/
def set (members : Members) (key : String) (entry : Entry) : Members :=
  match members with
  | [] => [(key, entry)]
  | (name, old) :: later =>
      if name = key then (name, entry) :: later else (name, old) :: set later key entry

/-- Remove the entry of a key. -/
def remove (members : Members) (key : String) : Members :=
  members.filter fun member => member.1 ≠ key

/-- Change the table at the end of a path of header keys, implying missing tables. -/
def changeBelow (change : Members → Option Members) : List String → Members → Option Members
  | [], members => change members
  | key :: path, members =>
      match members.lookup key with
      | none => (changeBelow change path []).map fun inner =>
          members.set key (.table .impliedByHeader inner)
      | some (.value _) => none
      | some (.tables latest earlier) => (changeBelow change path latest).map fun inner =>
          members.set key (.tables inner earlier)
      | some (.table origin inner) => (changeBelow change path inner).map fun inner =>
          members.set key (.table origin inner)

/-- Give a key its value, unless it has one. -/
def insertNew (members : Members) (key : String) (entry : Entry) : Option Members :=
  match members.lookup key with
  | none => some (members.set key entry)
  | some _ => none

/-- Give a dotted key its value. The table that holds the value must be implied by dotted keys, and
the tables on the way to it must be implied. -/
def insertDotted (key : String) (value : Value) : List String → Members → Option Members
  | [], members => members.insertNew key (.value value)
  | step :: path, members =>
      match members.lookup step with
      | none => (insertDotted key value path []).map fun inner =>
          members.set step (.table .impliedByKey inner)
      | some (.value _) => none
      | some (.tables latest earlier) =>
          if path.isEmpty then none
          else (insertDotted key value path latest).map fun inner =>
            members.set step (.tables inner earlier)
      | some (.table .header _) => none
      | some (.table .impliedByHeader inner) =>
          if path.isEmpty then none
          else (insertDotted key value path inner).map fun inner =>
            members.set step (.table .impliedByHeader inner)
      | some (.table .impliedByKey inner) => (insertDotted key value path inner).map fun inner =>
          members.set step (.table .impliedByKey inner)

end Members

mutual

/-- The value of an entry. -/
def Entry.toValue : Entry → Value
  | .value value => value
  | .table _ members => .table (membersToValues members)
  | .tables latest earlier =>
      .array ((.table (membersToValues latest) :: tablesToValues earlier).reverse)

/-- The values of members by key. -/
def membersToValues : List (String × Entry) → List (String × Value)
  | [] => []
  | (key, entry) :: members => (key, entry.toValue) :: membersToValues members

/-- The values of tables. -/
def tablesToValues : List (List (String × Entry)) → List Value
  | [] => []
  | members :: tables => .table (membersToValues members) :: tablesToValues tables

end

/-- A document while it is read: the finished tables, and the table that is open at present. -/
structure Building where
  root : Members
  path : List String
  key : Option String
  isArray : Bool
  current : Members

namespace Building

/-- Nothing is read yet; the root table is open. -/
def start : Building := ⟨[], [], none, false, []⟩

/-- Put the open table at its place. -/
def finish (building : Building) : Option Members :=
  match building.key with
  | none => some building.current
  | some key =>
      Members.changeBelow
        (fun members =>
          if building.isArray then
            match members.lookup key with
            | none => some (members.set key (.tables building.current []))
            | some (.tables latest earlier) =>
                some (members.set key (.tables building.current (latest :: earlier)))
            | some _ => none
          else some (members.set key (.table .header building.current)))
        building.path building.root

/-- The entry at a header key, below a path. -/
def entryAt? : List String → String → Members → Option Entry
  | [], key, members => members.lookup key
  | step :: path, key, members =>
      match members.lookup step with
      | some (.table _ inner) => entryAt? path key inner
      | some (.tables latest _) => entryAt? path key latest
      | _ => none

/-- Open a table under a header key. -/
def openTable (building : Building) (path : List String) (key : String) : Option Building := do
  let root ← building.finish
  match entryAt? path key root with
  | none =>
      let root ← Members.changeBelow some path root
      some ⟨root, path, some key, false, []⟩
  | some (.table .impliedByHeader members) =>
      let root ← Members.changeBelow (fun inner => some (Members.remove inner key)) path root
      some ⟨root, path, some key, false, members⟩
  | some _ => none

/-- Open one more table of an array of tables under a header key. -/
def openArrayTable (building : Building) (path : List String) (key : String) :
    Option Building := do
  let root ← building.finish
  match entryAt? path key root with
  | none =>
      let root ← Members.changeBelow some path root
      some ⟨root, path, some key, true, []⟩
  | some (.tables _ _) => some ⟨root, path, some key, true, []⟩
  | some _ => none

/-- Give a dotted key its value in the open table. -/
def addValue (building : Building) (path : List String) (key : String) (value : Value) :
    Option Building :=
  (Members.insertDotted key value path building.current).map fun current =>
    { building with current := current }

end Building
end Toml
end CatalogIngest
