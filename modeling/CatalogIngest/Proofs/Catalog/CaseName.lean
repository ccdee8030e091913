import CatalogIngest.Catalog.Store
import CatalogIngest.Name.TableAddress
import CatalogIngest.Proofs.Catalog.Growth

/-!
# Names of test cases

A test case gets its name in two ways: the catalog extends the name of the linked table, and whoever
looks for the case asks for a name from the parts of a hierarchy. Both give the same name.
-/

namespace CatalogIngest
namespace Name

theorem toList_intercalate_quote (parts : List String) :
    (".".intercalate (parts.map quote)).toList =
      ['.'].intercalate (parts.map fun part => quoteChars part.toList) := by
  rw [String.toList_intercalate, List.map_map]
  congr 2
  funext part
  exact String.toList_ofList

theorem joinChars_eq_intercalate (parts : List (List Char)) :
    joinChars parts = ['.'].intercalate (parts.map quoteChars) := by
  induction parts with
  | nil => rfl
  | cons first rest inductionHypothesis =>
      cases rest with
      | nil => exact List.intercalate_singleton.symm
      | cons second rest =>
          simp only [joinChars_cons_cons, inductionHypothesis, List.map_cons,
            List.intercalate_cons_cons, List.append_assoc, List.singleton_append]

/-- A joined name is its quoted parts with dots between them. -/
theorem join_eq_intercalate (parts : List String) :
    join parts = ".".intercalate (parts.map quote) := by
  rw [← String.toList_inj, join, String.toList_ofList, toList_intercalate_quote,
    joinChars_eq_intercalate, List.map_map]
  rfl

/-- Joining more parts to a name that is already joined. -/
theorem join_append
    {outer inner : List String}
    (outerParts : outer ≠ [])
    (innerParts : inner ≠ []) :
    join (outer ++ inner) = join outer ++ "." ++ join inner := by
  rw [join_eq_intercalate, join_eq_intercalate, join_eq_intercalate, List.map_append]
  refine String.intercalate_append_of_ne_nil ?_ ?_
  · exact fun none => outerParts (List.map_eq_nil_iff.mp none)
  · exact fun none => innerParts (List.map_eq_nil_iff.mp none)

end Name

namespace TableAddress

/-- The full name of a table of a service. -/
def fullName (address : TableAddress) (service : String) : String :=
  Name.join [service, address.database, address.schema, address.table]

/-- The full name of a test case on a table of a service, or on a column of it. -/
def caseName (address : TableAddress) (service : String) (column : Option String)
    (testCase : String) : String :=
  Name.join ([service, address.database, address.schema, address.table] ++ column.toList ++
    [testCase])

/-- The name of a case on a table extends the full name of the table. -/
theorem caseName_eq_append
    (address : TableAddress)
    (service : String)
    (column : Option String)
    (testCase : String) :
    address.caseName service column testCase =
      address.fullName service ++ ("." ++ Name.join (column.toList ++ [testCase])) := by
  rw [caseName, List.append_assoc, Name.join_append (List.cons_ne_nil _ _), String.append_assoc]
  · rfl
  · simp

theorem build_testCaseRequest
    (address : TableAddress)
    (service : String)
    (column : Option String)
    (testCase : String)
    (store : Store) :
    store.build (address.testCaseRequest service column testCase) =
      some (address.caseName service column testCase) := rfl

end TableAddress

namespace Store

/-- The name that the catalog gives a case below a table is the name that is built for it. -/
theorem caseName_eq
    (address : TableAddress)
    (service testCase : String)
    (column : Option String) :
    caseName ⟨address.fullName service, column⟩ testCase =
      address.caseName service column testCase := by
  have extended : caseName ⟨address.fullName service, column⟩ testCase =
      address.fullName service ++ "." ++ Name.join (column.toList ++ [testCase]) := by
    rw [caseName, Name.join_eq_intercalate (column.toList ++ [testCase]), List.map_append,
      List.append_assoc]
    refine (String.intercalate_append_of_ne_nil (List.cons_ne_nil _ _) ?_).trans ?_
    · simp
    · cases column <;> rw [String.intercalate_singleton] <;> rfl
  rw [extended, address.caseName_eq_append, String.append_assoc]

/-- A case that was created on a table of a service has the name that is built for it. -/
theorem fullName_of_createCase_ok
    {store : Store}
    (sound : store.Sound)
    {address : TableAddress}
    {service : String}
    {column : Option String}
    {request : CaseRequest}
    (link : request.link = ⟨address.fullName service, column⟩)
    {entity : Entity}
    (created : (store.createCase request).1 = .ok entity) :
    (store.createCase request).2.entity? .testCase
        (address.caseName service column request.name) = some entity ∧
      entity.fullName = address.caseName service column request.name := by
  have found := entity?_of_createCase_ok created
  rw [link, caseName_eq] at found
  exact ⟨found, (((store.grows_createCase request).sound sound).keyed _ _ _ found).2⟩

end Store
end CatalogIngest
