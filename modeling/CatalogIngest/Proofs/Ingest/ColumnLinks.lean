import CatalogIngest.Proofs.Ingest.CaseRequests
import CatalogIngest.Proofs.Ingest.ColumnDocumentation
import CatalogIngest.Proofs.Ingest.ColumnOrder
import CatalogIngest.Proofs.Ingest.ModelCoverage

/-!
# Links to columns

The columns of a data model have lower-case names. A test declares its column in a spelling of its
own, and the links of its cases have it as declared. So where the model of a table has the column,
a link to it names one of the model's columns exactly if the test declares it in lower case.
-/

namespace CatalogIngest

/-! ## Columns of models -/

namespace ModelResolver

variable
  {σ : Type}
  {resolver : ModelResolver σ}

/-- The model of a node has the node's columns. -/
theorem columns_of_model_resolveNode
    {key : String}
    {node : ManifestNode}
    {state : σ}
    {name : String}
    {model : DataModel}
    (resolved : (resolver.resolveNode key node state).1.model.toOption = some (name, model)) :
    model.columns = (resolver.columns node (resolver.artifacts.catalog.get? key)).1 := by
  unfold resolveNode at resolved
  revert resolved
  rcases resolver.parents node state with ⟨parents, afterParents⟩
  dsimp only
  rcases resolver.owner (resolver.artifacts.catalog.get? key) afterParents with ⟨owner, afterOwner⟩
  dsimp only
  rcases (resolver.context.requireName (node.address.dataModelRequest resolver.context.service)
    .dataModel key).run afterOwner with ⟨failure | own, afterName⟩
  · exact fun none => nomatch none
  · rintro ⟨⟩
    rfl

/-- Every model that is resolved has the columns of some node. -/
theorem exists_columns_of_get?_models
    {state : σ}
    {name : String}
    {model : DataModel}
    (found : (resolver.resolveAll state).1.models.get? name = some model) :
    ∃ key node,
      model.columns = (resolver.columns node (resolver.artifacts.catalog.get? key)).1 := by
  rw [models_resolveAll] at found
  rcases SortedMap.mem_of_mem_insertAll ((SortedMap.get?_eq_some_iff _ _ _).mp found) with
    bound | none
  · obtain ⟨resolution, member, contributed⟩ := List.mem_filterMap.mp bound
    obtain ⟨before, own⟩ := outcome_of_mem_resolutions member
    refine ⟨resolution.key, resolution.node, ?_⟩
    rw [contribution, own] at contributed
    exact columns_of_model_resolveNode contributed
  · exact absurd none List.not_mem_nil

/-- The columns of a node have lower-case names. -/
theorem lowerString_name_of_mem_columns
    {node : ManifestNode}
    {relation : Option CatalogNode}
    {column : Column}
    (member : column ∈ (resolver.columns node relation).1) :
    Text.lowerString column.name = column.name := by
  cases relation with
  | none => nomatch member
  | some relation =>
      change column ∈ sortByPosition (successes (resolver.columnOutcomes node relation)) at member
      obtain ⟨listed, -, -, sorted⟩ :=
        exists_listing_sortByPosition (fun entry => (resolver.becomes_column node entry.2).position)
          relation.keys_readableColumns_increasing
      rw [successes_columnOutcomes, sorted] at member
      obtain ⟨entry, -, rfl⟩ := List.mem_map.mp member
      exact Text.lowerString_lowerString entry.2.name

end ModelResolver

/-- The columns of every model that is resolved have lower-case names. -/
theorem ModelResolver.lowerString_name_of_get?_models
    {σ : Type}
    {resolver : ModelResolver σ}
    {state : σ}
    {name : String}
    {model : DataModel}
    (found : (resolver.resolveAll state).1.models.get? name = some model)
    {column : Column}
    (member : column ∈ model.columns) :
    Text.lowerString column.name = column.name := by
  obtain ⟨key, node, same⟩ := exists_columns_of_get?_models found
  rw [same] at member
  exact lowerString_name_of_mem_columns member

/-! ## Cases of a test -/

namespace TestMapping

variable {mapping : TestMapping Store} {service : String}

/-- The items of a test are the failure to find what its cases share, or one item for each of its
dependencies. -/
theorem caseItems_eq
    (builds : mapping.context.BuildsIn service)
    (entry : String × ManifestNode)
    (store : Store) :
    (mapping.caseItems entry store).1 =
      match ((mapping.caseParts entry.1 entry.2).run store).1 with
      | .error failure => [.error failure]
      | .ok parts => entry.2.dependsOn.map fun id =>
          (mapping.artifacts.dependency id .testCase entry.1).map
            (caseOf service entry.2 parts) := by
  unfold caseItems
  rcases (mapping.caseParts entry.1 entry.2).run store with ⟨failure | parts, after⟩
  · rfl
  · dsimp only
    rw [outcomesOf_caseOn builds]

/-- Unless the cases of a test fail together, there is a request for its case on each dependency that
the manifest has, with a link to the table of the dependency and to the column as declared. -/
theorem request_of_dependency
    (builds : mapping.context.BuildsIn service)
    (key : String)
    {test : ManifestNode}
    {position : Nat}
    {id : String}
    (depends : test.dependsOn[position]? = some id)
    {node : ManifestNode}
    (known : mapping.artifacts.manifest.get? id = some node)
    (store : Store) :
    (∃ failure, ((mapping.caseParts key test).run store).1 = .error failure ∧
        (mapping.caseItems (key, test) store).1 = [.error failure]) ∨
      ∃ request, (mapping.caseItems (key, test) store).1[position]? = some (.ok request) ∧
        request.link = ⟨node.address.fullName service, test.declaredColumn⟩ := by
  rw [caseItems_eq builds]
  rcases ((mapping.caseParts key test).run store).1 with failure | parts
  · exact .inl ⟨failure, rfl, rfl⟩
  · obtain ⟨found, same, isNode⟩ | ⟨absent, -⟩ :=
      mapping.artifacts.dependency_cases id .testCase key
    · rw [known] at same
      cases same
      refine .inr ⟨caseOf service test parts node, ?_, rfl⟩
      rw [List.getElem?_map, depends, Option.map_some, isNode]
      rfl
    · rw [known] at absent
      nomatch absent

end TestMapping

/-! ## Links and columns -/

/-- A link is to one of the columns of a data model. -/
def EntityLink.NamesColumnOf (link : EntityLink) (model : DataModel) : Prop :=
  ∃ column ∈ model.columns, link.column = some column.name

instance (link : EntityLink) (model : DataModel) : Decidable (link.NamesColumnOf model) :=
  inferInstanceAs (Decidable (∃ column ∈ model.columns, link.column = some column.name))

/-- A run prepared with the in-memory builder of names, and any catalog to look entities up in. Where
the data model of a table that a test depends on has the column that the test declares, in some
spelling, the case of the test on this table is requested, unless all its cases fail together. The
link of the case is to a column of the model exactly if the test declares the column in lower
case. -/
theorem Run.case_names_column_iff
    (service : String)
    (client : Client Store)
    (readType : String → DataType)
    (manifest : Manifest)
    (catalog : CatalogArtifact)
    (runResults : Option RunResults)
    (store : Store) :
    let context : Context Store := ⟨service, client, Store.nameBuilder, readType⟩
    let run := (Run.ofArtifacts context manifest catalog runResults store).1
    ∀ key test declared, (key, test) ∈ run.tests.entries → test.declaredColumn = some declared →
      ∀ (position : Nat) id node model, test.dependsOn[position]? = some id →
        run.artifacts.manifest.get? id = some node →
          run.model? (node.address.fullName service) = some model →
            (∃ column ∈ model.columns, Text.lowerString column.name = Text.lowerString declared) →
              ∀ current,
                let parts := ((run.mapping.caseParts key test).run current).1
                let items := (run.mapping.caseItems (key, test) current).1
                (∃ failure, parts = .error failure ∧ items = [.error failure]) ∨
                  ∃ request : CaseRequest, items[position]? = some (.ok request) ∧
                    request.link = ⟨node.address.fullName service, some declared⟩ ∧
                      (request.link.NamesColumnOf model ↔
                        Text.lowerString declared = declared) := by
  intro context run key test declared _ declares position id node model depends known found
  rintro ⟨column, member, sameLetters⟩ current
  have builds : run.mapping.context.BuildsIn service := ⟨rfl, rfl⟩
  have lowerCase : ∀ column ∈ model.columns, Text.lowerString column.name = column.name :=
    fun _ among => ModelResolver.lowerString_name_of_get?_models found among
  obtain together | ⟨request, requested, linked⟩ :=
    TestMapping.request_of_dependency builds key depends known current
  · exact .inl together
  · rw [declares] at linked
    refine .inr ⟨request, requested, linked, ?_⟩
    rw [linked]
    constructor
    · rintro ⟨named, among, same⟩
      rw [Option.some.inj same]
      exact lowerCase named among
    · intro settled
      refine ⟨column, member, congrArg some ?_⟩
      rw [← settled, ← sameLetters, lowerCase column member]

/-- Orders, with a test of their identifiers that declares the column in some spelling. -/
def Manifest.ordersTestedOn (column : String) : Manifest where
  metadata := default
  nodes := .ofList
    [("model.shop.orders", .object
        [("name", .string "orders"), ("resource_type", .string "model"),
          ("database", .string "db"), ("schema", .string "sales"),
          ("original_file_path", .string "models/orders.sql")]),
      ("test.shop.not_null_orders_id", .object
        [("name", .string "not_null_orders_id"), ("resource_type", .string "test"),
          ("column_name", .string column),
          ("depends_on", .object [("nodes", .array [.string "model.shop.orders"])]),
          ("test_metadata", .object [("name", .string "not_null")])])]
  sources := .empty

/-- The relation of orders, with one column. -/
def CatalogArtifact.orderIds : CatalogArtifact where
  nodes := .ofList
    [("model.shop.orders", .object
        [("metadata", .object []),
          ("columns", .object [("ID", CatalogColumn.encode ⟨"ID", "integer", 1, none⟩)])])]
  sources := .empty

/-- A run over orders and a test that declares the column of their identifiers in some spelling. -/
def Run.onOrderIds (column : String) : Run Store :=
  (Run.ofArtifacts (Context.inMemory "svc") (.ordersTestedOn column) .orderIds none
    (Store.empty 0)).1

/-- A catalog with orders, and with the suite and the definition of the test. -/
def Store.readyForOrderIds : Store :=
  (Store.empty 0).addEach
    [(.table, "svc.db.sales.orders"), (.testSuite, "DBT_TEST_SUITE"),
      (.testDefinition, "not_null_orders_id")]

/-- Declared in lower case, the column is one of the model's. -/
theorem Run.case_names_column_iff_on_lower_case :
    let run := Run.onOrderIds "id"
    ∃ test model request, run.tests.get? "test.shop.not_null_orders_id" = some test ∧
      run.model? "svc.db.sales.orders" = some model ∧
      (run.mapping.caseItems ("test.shop.not_null_orders_id", test) Store.readyForOrderIds).1[0]? =
        some (.ok request) ∧
      request.link.NamesColumnOf model := by
  intro run
  obtain ⟨test, isTest, declares, depends, shared⟩ :
      ∃ test, run.tests.get? "test.shop.not_null_orders_id" = some test ∧
        test.declaredColumn = some "id" ∧ test.dependsOn[0]? = some "model.shop.orders" ∧
        ((run.mapping.caseParts "test.shop.not_null_orders_id" test).run
          Store.readyForOrderIds).1.toOption.isSome = true := by
    refine ⟨_, rfl, ?_, ?_, ?_⟩ <;> decide +kernel
  obtain ⟨node, isNode, named⟩ :
      ∃ node, run.artifacts.manifest.get? "model.shop.orders" = some node ∧
        node.address.fullName "svc" = "svc.db.sales.orders" := by
    refine ⟨_, rfl, ?_⟩
    decide +kernel
  obtain ⟨model, isModel, columns⟩ :
      ∃ model, run.model? "svc.db.sales.orders" = some model ∧
        ∃ column ∈ model.columns, Text.lowerString column.name = Text.lowerString "id" := by
    refine ⟨_, rfl, ?_⟩
    decide +kernel
  have listed : ("test.shop.not_null_orders_id", test) ∈ run.tests.entries :=
    (SortedMap.get?_eq_some_iff _ _ _).mp isTest
  have modelThere : run.model? (node.address.fullName "svc") = some model := named ▸ isModel
  obtain ⟨failure, failed, -⟩ | ⟨request, requested, -, names⟩ :=
    Run.case_names_column_iff "svc" Store.client DataType.read (.ordersTestedOn "id") .orderIds none
      (Store.empty 0) _ test "id" listed declares 0 _ node model depends isNode modelThere columns
      Store.readyForOrderIds
  · have unmade := congrArg (fun parts => parts.toOption.isSome) failed
    exact absurd (unmade.symm.trans shared) Bool.false_ne_true
  · exact ⟨test, model, request, isTest, isModel, requested, names.mpr (by decide +kernel)⟩

/-- Declared in capitals, it is not, although the model has the column. -/
theorem Run.case_misses_column_declared_in_capitals :
    let run := Run.onOrderIds "ID"
    ∃ test model request, run.tests.get? "test.shop.not_null_orders_id" = some test ∧
      test.declaredColumn = some "ID" ∧
      run.model? "svc.db.sales.orders" = some model ∧
      (∃ column ∈ model.columns, Text.lowerString column.name = Text.lowerString "ID") ∧
      (run.mapping.caseItems ("test.shop.not_null_orders_id", test) Store.readyForOrderIds).1[0]? =
        some (.ok request) ∧
      request.link.table = "svc.db.sales.orders" ∧
      ¬ request.link.NamesColumnOf model := by
  intro run
  refine ⟨_, _, _, rfl, ?_, rfl, ?_, rfl, ?_, ?_⟩ <;> decide +kernel

end CatalogIngest
