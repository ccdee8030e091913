import CatalogIngest.Proofs.Ingest.FixedAnswers
import CatalogIngest.Proofs.SortedMap

/-!
# Resolving a node does not depend on the others

When the catalog and the builder of names have fixed answers, what comes of a node depends on the
node, its relation and the nodes that it depends on, and on nothing else in the artifacts. In two
resolutions that agree on these, the node adds the same failures; and if no other node has a data
model of the same name, it has the same data model in the end.
-/

namespace CatalogIngest

variable {σ : Type}

namespace MergedArtifacts

/-- Two artifacts have a node in common, and all that it is resolved from: its relation, if there
is one, and the nodes that it depends on, as far as there are such nodes. -/
structure AgreeOn (first second : MergedArtifacts) (key : String) (node : ManifestNode) : Prop where
  inFirst : first.manifest.get? key = some node
  inSecond : second.manifest.get? key = some node
  relation : first.catalog.get? key = second.catalog.get? key
  dependency : ∀ id ∈ node.dependsOn, first.manifest.get? id = second.manifest.get? id

/-- No node under another key, unless it is a test, has a data model of the same name. -/
def NamesAlone (artifacts : MergedArtifacts) (answers : FixedAnswers) (service key : String)
    (node : ManifestNode) : Prop :=
  ∀ entry ∈ artifacts.manifest.entries, entry.2.isTest = false → entry.1 ≠ key →
    ∀ name ∈ answers.modelName? service entry.2, answers.modelName? service node ≠ some name

/-- The nodes behind a node that alone has its name have other names. -/
theorem NamesAlone.ne_of_later
    {artifacts : MergedArtifacts}
    {answers : FixedAnswers}
    {service key name : String}
    {node : ManifestNode}
    (alone : artifacts.NamesAlone answers service key node)
    (named : answers.modelName? service node = some name)
    {before after : List (String × ManifestNode)}
    (split : artifacts.manifest.entries = before ++ (key, node) :: after) :
    ∀ entry ∈ after, entry.2.isTest = false → answers.modelName? service entry.2 ≠ some name := by
  intro entry among noTest otherName
  have listed : entry ∈ artifacts.manifest.entries := by
    rw [split]
    exact List.mem_append_right _ (List.mem_cons_of_mem _ among)
  have otherKey : entry.1 ≠ key := SortedMap.key_ne_of_mem_later split entry among
  exact alone entry listed noTest otherKey name otherName named

end MergedArtifacts

/-- All failures that an outcome adds, with that of a node that has no name. -/
def NodeOutcome.reported (outcome : NodeOutcome) : List Failure :=
  match outcome.model with
  | .ok _ => outcome.failures
  | .error failure => outcome.failures ++ [failure]

namespace ModelResolver

/-- What is resolved when the first of the nodes have had their turn. -/
def resolvedAfter (resolver : ModelResolver σ) (entries : List (String × ManifestNode))
    (state : σ) : ResolvedModels :=
  (resolver.resolveNodes entries
    ⟨.empty, resolver.artifacts.manifest.filter ManifestNode.isTest, []⟩ state).1

/-- What a node contributes when all nodes are resolved. In its turn it adds its failures, none of
which is lost later, and its data model, if it has one; and under the name of its data model it is
this one that is found in the end. -/
structure Contributes (resolver : ModelResolver σ) (state : σ) (key : String) (node : ManifestNode)
    (failures : List Failure) (model? : Option (String × DataModel)) : Prop where
  turn : ∃ before after, resolver.artifacts.manifest.entries = before ++ (key, node) :: after ∧
    let reached := resolver.resolvedAfter before state
    let passed := resolver.resolvedAfter (before ++ [(key, node)]) state
    passed.failures = reached.failures ++ failures ∧
      passed.models = reached.models.insertAll model?.toList ∧
        passed.failures <+: (resolver.resolveAll state).1.failures
  found : ∀ name model, model? = some (name, model) →
    (resolver.resolveAll state).1.models.get? name = some model

/-! ## What a node is resolved from -/

theorem resolveNode_congr
    (context : Context σ)
    (owners : List OwnerStrategy)
    {first second : MergedArtifacts}
    {key : String}
    {node : ManifestNode}
    (agree : first.AgreeOn second key node) :
    resolveNode ⟨context, first, owners⟩ key node =
      resolveNode ⟨context, second, owners⟩ key node := by
  have sameParents : parents ⟨context, first, owners⟩ node =
      parents ⟨context, second, owners⟩ node := by
    refine congrArg outcomesOf (List.map_congr_left fun id depends => ?_)
    unfold parentName
    rw [agree.dependency id depends]
  rw [resolveNode_eq_bind, resolveNode_eq_bind, sameParents, agree.relation]
  rfl

/-! ## The turn of a node among the others -/

/-- In its turn a node adds its outcome. -/
theorem resolveNodes_cons_of_outcome
    (resolver : ModelResolver σ)
    {entry : String × ManifestNode}
    (noTest : entry.2.isTest = false)
    {state : σ}
    {outcome : NodeOutcome}
    (own : (resolver.resolveNode entry.1 entry.2 state).1 = outcome)
    (later : List (String × ManifestNode))
    (resolved : ResolvedModels) :
    resolver.resolveNodes (entry :: later) resolved state =
      resolver.resolveNodes later (addOutcome resolved outcome)
        (resolver.resolveNode entry.1 entry.2 state).2 := by
  subst own
  rw [resolveNodes_cons, noTest]
  rfl

theorem resolveNodes_append
    (resolver : ModelResolver σ)
    (earlier later : List (String × ManifestNode))
    (resolved : ResolvedModels)
    (state : σ) :
    resolver.resolveNodes (earlier ++ later) resolved state =
      resolver.resolveNodes later (resolver.resolveNodes earlier resolved state).1
        (resolver.resolveNodes earlier resolved state).2 := by
  induction earlier generalizing resolved state with
  | nil => rfl
  | cons entry rest inductionHypothesis =>
      rw [List.cons_append, resolveNodes_cons, resolveNodes_cons]
      split
      · exact inductionHypothesis resolved state
      · exact inductionHypothesis _ _

/-- The nodes before a node are resolved, the node adds its outcome, and the later nodes go on from
there. -/
theorem resolveNodes_around
    (resolver : ModelResolver σ)
    (before : List (String × ManifestNode))
    {entry : String × ManifestNode}
    (after : List (String × ManifestNode))
    (noTest : entry.2.isTest = false)
    {resolved reached : ResolvedModels}
    {state between : σ}
    (first : resolver.resolveNodes before resolved state = (reached, between))
    {outcome : NodeOutcome}
    (own : (resolver.resolveNode entry.1 entry.2 between).1 = outcome) :
    resolver.resolveNodes (before ++ entry :: after) resolved state =
      resolver.resolveNodes after (addOutcome reached outcome)
        (resolver.resolveNode entry.1 entry.2 between).2 := by
  rw [resolveNodes_append, first]
  exact resolver.resolveNodes_cons_of_outcome noTest own after reached

theorem models_addOutcome
    (resolved : ResolvedModels)
    (outcome : NodeOutcome) :
    (addOutcome resolved outcome).models =
      resolved.models.insertAll outcome.model.toOption.toList := by
  unfold addOutcome
  cases outcome.model <;> rfl

theorem failures_addOutcome
    (resolved : ResolvedModels)
    (outcome : NodeOutcome) :
    (addOutcome resolved outcome).failures = resolved.failures ++ outcome.reported := by
  unfold addOutcome NodeOutcome.reported
  cases outcome.model with
  | ok _ => rfl
  | error _ => exact List.append_assoc _ _ _

/-- Failures are only added. -/
theorem failures_prefix_resolveNodes
    (resolver : ModelResolver σ)
    (entries : List (String × ManifestNode))
    (resolved : ResolvedModels)
    (state : σ) :
    resolved.failures <+: (resolver.resolveNodes entries resolved state).1.failures := by
  induction entries generalizing resolved state with
  | nil => exact List.prefix_rfl
  | cons entry later inductionHypothesis =>
      rw [resolveNodes_cons]
      split
      · exact inductionHypothesis resolved state
      · refine List.IsPrefix.trans ?_ (inductionHypothesis (addOutcome resolved _) _)
        rw [failures_addOutcome]
        exact List.prefix_append _ _

section Fixed

variable
  {resolver : ModelResolver σ}
  {answers : FixedAnswers}
  {states : σ → Prop}
  (fixed : resolver.context.Fixed answers states)

include fixed

/-- A data model stays if none of the later nodes has a data model of its name. -/
theorem get?_resolveNodes
    {entries : List (String × ManifestNode)}
    {name : String}
    (unnamed : ∀ entry ∈ entries, entry.2.isTest = false →
      answers.modelName? resolver.context.service entry.2 ≠ some name)
    (resolved : ResolvedModels)
    {state : σ}
    (inside : states state) :
    (resolver.resolveNodes entries resolved state).1.models.get? name =
      resolved.models.get? name := by
  induction entries generalizing resolved state with
  | nil => rfl
  | cons entry later inductionHypothesis =>
      obtain ⟨first, rest⟩ := List.forall_mem_cons.mp unnamed
      cases test : entry.2.isTest with
      | true =>
          rw [resolveNodes_cons, if_pos test]
          exact inductionHypothesis rest resolved inside
      | false =>
          obtain ⟨outcome, returns, named⟩ := resolveNode_returns fixed entry.1 entry.2
          obtain ⟨own, stays⟩ := returns state inside
          rw [resolver.resolveNodes_cons_of_outcome test own, inductionHypothesis rest _ stays,
            models_addOutcome]
          refine SortedMap.get?_insertAll_of_not_mem _ fun bound => first test ?_
          obtain ⟨binding, isModel, rfl⟩ := List.mem_map.mp bound
          rw [← named, Option.mem_toList.mp isModel, Option.map_some]

/-- A node contributes what resolving it returns, if it alone has a data model of its name. -/
theorem contributes_of_returns
    {key : String}
    {node : ManifestNode}
    (found : resolver.artifacts.manifest.get? key = some node)
    (noTest : node.isTest = false)
    (alone : resolver.artifacts.NamesAlone answers resolver.context.service key node)
    {outcome : NodeOutcome}
    (returns : Returns states (resolver.resolveNode key node) outcome)
    (named : outcome.model.toOption.map Prod.fst =
      answers.modelName? resolver.context.service node)
    {state : σ}
    (inside : states state) :
    resolver.Contributes state key node outcome.reported outcome.model.toOption := by
  obtain ⟨before, after, split⟩ := List.append_of_mem ((SortedMap.get?_eq_some_iff _ _ _).mp found)
  -- What came before leaves the catalog in a state with the same answers.
  obtain ⟨reached, returnsBefore⟩ := resolveNodes_returns fixed before
    ⟨.empty, resolver.artifacts.manifest.filter ManifestNode.isTest, []⟩
  obtain ⟨between, first, reachable⟩ := returnsBefore.exists_eq inside
  obtain ⟨own, stays⟩ := returns between reachable
  have passed : resolver.resolvedAfter (before ++ [(key, node)]) state =
      addOutcome reached outcome :=
    congrArg Prod.fst (resolver.resolveNodes_around before [] noTest first own)
  have final : (resolver.resolveAll state).1 =
      (resolver.resolveNodes after (addOutcome reached outcome)
        (resolver.resolveNode key node between).2).1 := by
    rw [resolveAll, split]
    exact congrArg Prod.fst (resolver.resolveNodes_around before after noTest first own)
  refine ⟨⟨before, after, split, ?_, ?_, ?_⟩, fun name model isModel => ?_⟩
  · rw [passed, resolvedAfter, first, failures_addOutcome]
  · rw [passed, resolvedAfter, first, models_addOutcome]
  · rw [passed, final]
    exact resolver.failures_prefix_resolveNodes after _ _
  · have ownName : answers.modelName? resolver.context.service node = some name := by
      rw [← named, isModel, Option.map_some]
    rw [final, get?_resolveNodes fixed (alone.ne_of_later ownName split) _ stays,
      models_addOutcome, isModel]
    exact SortedMap.get?_insert_same _ name model

end Fixed

/-- With fixed answers, a node of two artifacts that agree on what it is resolved from contributes the
same to both resolutions, whatever else the artifacts hold: the same failures and, under the name
that is answered for it, the same data model, or none if no name is answered. -/
theorem node_resolved_independently
    {context : Context σ}
    {answers : FixedAnswers}
    {states : σ → Prop}
    (fixed : context.Fixed answers states)
    (owners : List OwnerStrategy)
    {first second : MergedArtifacts}
    {key : String}
    {node : ManifestNode}
    (noTest : node.isTest = false)
    (agree : first.AgreeOn second key node)
    (aloneInFirst : first.NamesAlone answers context.service key node)
    (aloneInSecond : second.NamesAlone answers context.service key node)
    {firstState secondState : σ}
    (firstInside : states firstState)
    (secondInside : states secondState) :
    ∃ failures model?, model?.map Prod.fst = answers.modelName? context.service node ∧
      Contributes ⟨context, first, owners⟩ firstState key node failures model? ∧
        Contributes ⟨context, second, owners⟩ secondState key node failures model? := by
  let inFirst : ModelResolver σ := ⟨context, first, owners⟩
  let inSecond : ModelResolver σ := ⟨context, second, owners⟩
  have fixedInFirst : inFirst.context.Fixed answers states := fixed
  have fixedInSecond : inSecond.context.Fixed answers states := fixed
  obtain ⟨outcome, returns, named⟩ := resolveNode_returns fixedInFirst key node
  have returnsInSecond : Returns states (inSecond.resolveNode key node) outcome := by
    rw [← resolveNode_congr context owners agree]
    exact returns
  refine ⟨outcome.reported, outcome.model.toOption, named, ?_, ?_⟩
  · exact contributes_of_returns fixedInFirst agree.inFirst noTest aloneInFirst returns named
      firstInside
  · exact contributes_of_returns fixedInSecond agree.inSecond noTest aloneInSecond returnsInSecond
      named secondInside

end ModelResolver

/-- Orders, which depend on customers and on a node that no artifact has. -/
def ManifestNode.orders : ManifestNode :=
  { (default : ManifestNode) with
    uniqueId := "model.shop.orders", name := "orders", resourceType := "model"
    dependsOn := ["model.shop.customers", "model.shop.missing"] }

/-- Orders and customers among other nodes and relations. -/
def MergedArtifacts.ordersAmong (nodes : List (String × ManifestNode))
    (relations : List (String × CatalogNode)) : MergedArtifacts where
  manifest := .ofList
    (nodes ++
      [("model.shop.customers", { (default : ManifestNode) with name := "customers" }),
        ("model.shop.orders", .orders)])
  catalog := .ofList relations
  failures := []

/-- Orders have the same data model without neighbours and beside payments with a bad column. -/
theorem ModelResolver.node_resolved_independently_of_payments :
    let payments : ManifestNode := { (default : ManifestNode) with name := "payments" }
    let relation : CatalogNode := ⟨default, .ofList [("amount", .null)], none⟩
    let alone : MergedArtifacts := .ordersAmong [] []
    let beside : MergedArtifacts :=
      .ordersAmong [("model.shop.payments", payments)] [("model.shop.payments", relation)]
    ∃ model,
      (resolveAll ⟨.inMemory "svc", alone, OwnerStrategy.standard⟩ (Store.empty 0)).1.models.get?
          "svc.default.default.orders" = some model ∧
        (resolveAll ⟨.inMemory "svc", beside, OwnerStrategy.standard⟩ (Store.empty 0)).1.models.get?
          "svc.default.default.orders" = some model := by
  intro payments relation alone beside
  have agree : alone.AgreeOn beside "model.shop.orders" .orders := by
    refine ⟨SortedMap.get?_insert_same _ _ _, SortedMap.get?_insert_same _ _ _,
      (SortedMap.get?_insert_other _ (by decide) _).symm, fun id depends => ?_⟩
    rcases List.mem_pair.mp depends with rfl | rfl <;>
      simp [alone, beside, MergedArtifacts.ordersAmong, SortedMap.ofList, SortedMap.insertAll,
        SortedMap.get?_insert]
  have ownName : (Store.empty 0).answers.modelName? "svc" .orders =
      some "svc.default.default.orders" := by decide +kernel
  obtain ⟨failures, model?, named, inAlone, inBeside⟩ :=
    node_resolved_independently (Context.fixed_inMemory "svc" (Store.empty 0)) OwnerStrategy.standard
      (by decide) agree (by unfold MergedArtifacts.NamesAlone; decide +kernel)
      (by unfold MergedArtifacts.NamesAlone; decide +kernel) rfl rfl
  obtain ⟨⟨name, model⟩, rfl, rfl⟩ := Option.map_eq_some_iff.mp (named.trans ownName)
  exact ⟨model, inAlone.found _ _ rfl, inBeside.found _ _ rfl⟩

end CatalogIngest
