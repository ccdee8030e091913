import CatalogIngest.Proofs.Catalog.Sharing
import CatalogIngest.Proofs.Name.UniqueReading
import Mathlib.Algebra.Ring.Parity
import Mathlib.Data.List.TakeWhile

/-!
# Display names

An entity is displayed under a name that is computed from its full name once, when the name is
registered: the whole name of a user or team, and the last part of any other. Test cases are
registered under dotted names, whose last part is the name asked for. Suites and definitions are
registered under the bare name asked for, and a dot in it is taken for a separator.
-/

namespace CatalogIngest
namespace Name

/-! ## The last part of any text -/

/-- The search passes over any text. An odd number of quotes in it opens the quote that was closed
before, or closes the one that was open. -/
theorem lastPieceFrom_passes
    (text : List Char)
    (inside : Bool)
    (piece rest : List Char) :
    ∃ passed, lastPieceFrom inside piece (text ++ rest) =
      lastPieceFrom (inside ^^ decide (Odd (text.count '"'))) passed rest := by
  induction text generalizing inside piece with
  | nil => exact ⟨piece, by simp⟩
  | cons character later inductionHypothesis =>
      rw [List.cons_append, lastPieceFrom]
      by_cases quote : character = '"'
      · obtain ⟨passed, same⟩ := inductionHypothesis (!inside) (character :: piece)
        have turned : (!inside ^^ decide (Odd (later.count '"'))) =
            (inside ^^ decide (Odd (later.count '"' + 1))) := by
          rw [decide_eq_decide.mpr Nat.odd_add_one, decide_not, Bool.xor_not, Bool.not_xor]
        exact ⟨passed, by rw [if_pos quote, same, turned, quote, List.count_cons_self]⟩
      · rw [if_neg quote, List.count_cons_of_ne quote]
        by_cases dot : character = '.' ∧ inside = false
        · rw [if_pos dot]
          exact inductionHypothesis inside []
        · rw [if_neg dot]
          exact inductionHypothesis inside (character :: piece)

/-- A dot outside quotes ends what was passed. -/
theorem lastPieceFrom_dot_outside
    (piece rest : List Char) :
    lastPieceFrom false piece ('.' :: rest) = lastPieceFrom false [] rest := by
  rw [lastPieceFrom, if_neg (by decide), if_pos ⟨rfl, rfl⟩]

/-- A dot within quotes belongs to the part. -/
theorem lastPieceFrom_dot_inside
    (piece rest : List Char) :
    lastPieceFrom true piece ('.' :: rest) = lastPieceFrom true ('.' :: piece) rest := by
  rw [lastPieceFrom, if_neg (by decide), if_neg (by simp)]

/-- Outside quotes the search forgets what stands before the last dot of a text. -/
theorem lastPieceFrom_behind_dot
    {before behind : List Char}
    (beforeUnquoted : '"' ∉ before)
    (behindUnquoted : '"' ∉ behind)
    (undotted : '.' ∉ behind)
    (piece rest : List Char) :
    lastPieceFrom false piece (before ++ '.' :: (behind ++ rest)) =
      lastPieceFrom false behind.reverse rest := by
  obtain ⟨passed, same⟩ := lastPieceFrom_passes before false piece ('.' :: (behind ++ rest))
  rw [same, List.count_eq_zero_of_not_mem beforeUnquoted]
  have outside : (false ^^ decide (Odd 0)) = false := by decide
  rw [outside, lastPieceFrom_dot_outside, lastPieceFrom_append behindUnquoted (.inr undotted),
    List.append_nil]

/-- A text with a dot has a last one. -/
theorem exists_last_dot
    {text : List Char}
    (dotted : '.' ∈ text) :
    ∃ before behind, text = before ++ '.' :: behind ∧ '.' ∉ behind := by
  obtain ⟨behind, before, split, undotted⟩ :=
    List.eq_append_cons_of_mem (List.mem_reverse.mpr dotted)
  refine ⟨before.reverse, behind.reverse, ?_, mt List.mem_reverse.mp undotted⟩
  rw [← List.reverse_reverse text, split]
  simp

theorem mem_dropWhile_quotes_iff
    {character : Char}
    (notQuote : character ≠ '"')
    (text : List Char) :
    character ∈ text.dropWhile (· = '"') ↔ character ∈ text := by
  have notDropped : character ∉ text.takeWhile (· = '"') := by
    intro member
    exact notQuote (by simpa using List.mem_takeWhile_imp member)
  refine ⟨fun member => (List.dropWhile_sublist _).mem member, fun member => ?_⟩
  rw [← List.takeWhile_append_dropWhile (p := (· = '"')) (l := text), List.mem_append] at member
  exact member.resolve_left notDropped

/-- Only quotes are removed at the ends. -/
theorem mem_unquoteChars_iff
    {character : Char}
    (notQuote : character ≠ '"')
    (text : List Char) :
    character ∈ unquoteChars text ↔ character ∈ text := by
  rw [unquoteChars, List.mem_reverse, mem_dropWhile_quotes_iff notQuote, List.mem_reverse,
    mem_dropWhile_quotes_iff notQuote]

/-- A text without quotes is its own last part exactly if there is no dot in it. -/
theorem lastPartChars_eq_self_iff
    {text : List Char}
    (unquoted : '"' ∉ text) :
    lastPartChars text = text ↔ '.' ∉ text := by
  constructor
  · intro same dotted
    obtain ⟨before, behind, split, undotted⟩ := exists_last_dot dotted
    rw [split, List.mem_append, List.mem_cons, not_or, not_or] at unquoted
    have reached := lastPieceFrom_behind_dot unquoted.1 unquoted.2.2 undotted [] []
    rw [List.append_nil, ← split, lastPieceFrom, List.reverse_reverse] at reached
    rw [← same, lastPartChars, reached, mem_unquoteChars_iff (by decide)] at dotted
    exact undotted dotted
  · intro plain
    have reached : lastPieceFrom false [] (text ++ []) = _ :=
      lastPieceFrom_append unquoted (.inr plain) [] []
    rw [List.append_nil, List.append_nil, lastPieceFrom, List.reverse_reverse] at reached
    have bare := unquoteChars_quoteChars unquoted
    rw [quoteChars_of_plain plain] at bare
    rw [lastPartChars, reached, bare]

/-- Behind a text in which no quote is left open, the part that follows is the last one. -/
theorem lastPartChars_of_even
    {outer part : List Char}
    (paired : Even (outer.count '"'))
    (unquoted : '"' ∉ part) :
    lastPartChars (outer ++ '.' :: quoteChars part) = part := by
  obtain ⟨passed, reached⟩ := lastPieceFrom_passes outer false [] ('.' :: quoteChars part)
  rw [decide_eq_false (Nat.not_odd_iff_even.mpr paired), Bool.xor_false,
    lastPieceFrom_dot_outside] at reached
  have found := lastPieceFrom_quoteChars unquoted [] []
  rw [List.append_nil, List.append_nil, lastPieceFrom, List.reverse_reverse] at found
  rw [lastPartChars, reached, found, unquoteChars_quoteChars unquoted]

/-- Behind a text that leaves a quote open, the last part is not the part that follows: without dots
it is joined to what stands before it, and otherwise the quote before it closes the one that was open,
so that its own dots separate. -/
theorem lastPartChars_ne_of_odd
    {outer part : List Char}
    (unpaired : Odd (outer.count '"'))
    (unquoted : '"' ∉ part) :
    lastPartChars (outer ++ '.' :: quoteChars part) ≠ part := by
  obtain ⟨passed, reached⟩ := lastPieceFrom_passes outer false [] ('.' :: quoteChars part)
  rw [decide_eq_true unpaired, Bool.xor_true, Bool.not_false, lastPieceFrom_dot_inside] at reached
  intro same
  rw [lastPartChars, reached] at same
  by_cases dotted : '.' ∈ part
  · obtain ⟨before, behind, split, undotted⟩ := exists_last_dot dotted
    have apart := unquoted
    rw [split, List.mem_append, List.mem_cons, not_or, not_or] at apart
    have found := lastPieceFrom_behind_dot apart.1 apart.2.2 undotted ('"' :: '.' :: passed) ['"']
    rw [← List.cons_append, ← List.append_assoc, ← split] at found
    rw [quoteChars_of_dotted unquoted dotted, List.cons_append, lastPieceFrom, if_pos rfl,
      Bool.not_true, found] at same
    rw [← same, mem_unquoteChars_iff (by decide)] at dotted
    simp [lastPieceFrom, undotted] at dotted
  · have found := lastPieceFrom_append unquoted (.inl rfl) ('.' :: passed) []
    rw [List.append_nil] at found
    rw [quoteChars_of_plain dotted, found] at same
    rw [← same, mem_unquoteChars_iff (by decide)] at dotted
    simp [lastPieceFrom] at dotted

/-- Quotes around a part come in a pair. -/
theorem even_count_quoteChars_iff (part : List Char) :
    Even ((quoteChars part).count '"') ↔ Even (part.count '"') := by
  unfold quoteChars
  split
  · simp [List.count_append, Nat.even_add]
  · rfl

end Name

namespace Store

/-! ## Names of cases -/

/-- The double quotes in the names of the table and of the column come in pairs. -/
def PairedQuotes (link : EntityLink) : Prop :=
  Even ((link.table.toList ++ (link.column.getD "").toList).count '"')

instance (link : EntityLink) : Decidable (PairedQuotes link) :=
  inferInstanceAs (Decidable (Even _))

/-- The name of a case is its quoted own name behind a text with as many unpaired quotes as its link
has. -/
theorem toList_caseName
    (link : EntityLink)
    (name : String) :
    ∃ outer, (caseName link name).toList = outer ++ '.' :: Name.quoteChars name.toList ∧
      (Even (outer.count '"') ↔ PairedQuotes link) := by
  obtain ⟨table, column⟩ := link
  cases column with
  | none =>
      refine ⟨table.toList, ?_, ?_⟩
      · simp [caseName, Name.quote]
      · simp [PairedQuotes]
  | some column =>
      refine ⟨table.toList ++ '.' :: Name.quoteChars column.toList, ?_, ?_⟩
      · simp [caseName, Name.quote]
      · simp [PairedQuotes, Nat.even_add, Name.even_count_quoteChars_iff]

/-- A case is displayed under its own name exactly if its link leaves no quote open. -/
theorem displayName_caseName_iff
    {link : EntityLink}
    {name : String}
    (unquoted : '"' ∉ name.toList) :
    displayName .testCase (caseName link name) = name ↔ PairedQuotes link := by
  obtain ⟨outer, spelled, sameQuotes⟩ := toList_caseName link name
  change Name.lastPart (caseName link name) = name ↔ _
  rw [Name.lastPart, spelled, ← String.toList_inj, String.toList_ofList, ← sameQuotes]
  constructor
  · intro same
    exact Nat.not_odd_iff_even.mp fun unpaired =>
      Name.lastPartChars_ne_of_odd unpaired unquoted same
  · exact fun paired => Name.lastPartChars_of_even paired unquoted

/-- A bare name that is taken for a dotted one is kept exactly if there is no dot in it. -/
theorem lastPart_eq_self_iff
    {name : String}
    (unquoted : '"' ∉ name.toList) :
    Name.lastPart name = name ↔ '.' ∉ name.toList := by
  rw [Name.lastPart, ← String.toList_inj, String.toList_ofList]
  exact Name.lastPartChars_eq_self_iff unquoted

/-! ## Every catalog that is reached -/

theorem entities_addLineage
    (store : Store)
    (request : LineageRequest) :
    (store.addLineage request).entities = store.entities := by
  unfold addLineage
  split <;> rfl

theorem entities_submit
    (store : Store)
    (fullName : String)
    (result : TestResult) :
    (store.submit fullName result).2.entities = store.entities := by
  rcases store.submit_cases fullName result with ⟨error, refused⟩ | ⟨_, accepted⟩
  · rw [refused]
  · rw [accepted]
    rfl

/-- An operation registers a name or leaves the entities as they are. -/
theorem Operation.entities_perform
    (operation : Operation)
    (store : Store) :
    (operation.perform store).2.entities = store.entities ∨
      ∃ kind fullName, (operation.perform store).2 = (store.addEntity kind fullName).2 := by
  cases operation with
  | ask query => exact .inl (by rw [Operation.perform, query.perform_snd])
  | addEntity kind fullName => exact .inr ⟨kind, fullName, rfl⟩
  | addFault name error => exact .inl rfl
  | createSuite request =>
      rw [Operation.perform, answering_snd]
      exact (store.createSuite_snd request).imp (congrArg entities) fun same => ⟨_, _, same⟩
  | createDefinition request =>
      rw [Operation.perform, answering_snd]
      exact (store.createDefinition_snd request).imp (congrArg entities) fun same => ⟨_, _, same⟩
  | createCase request =>
      rw [Operation.perform, answering_snd]
      exact (store.createCase_snd request).imp (congrArg entities) fun same => ⟨_, _, same⟩
  | addLineage request =>
      rw [Operation.perform, answering_snd]
      exact .inl (store.entities_addLineage request)
  | submit fullName result =>
      rw [Operation.perform, answering_snd]
      exact .inl (store.entities_submit fullName result)

section Reachable

variable
  {property : Store → Prop}
  (fresh : ∀ firstNumber, property (empty firstNumber))
  (registered : ∀ store kind fullName, property store →
    property (Store.addEntity store kind fullName).2)
  (framed : ∀ older newer : Store, newer.entities = older.entities →
    property older → property newer)

include fresh registered framed

theorem Origin.store_induction
    (origin : Origin)
    (firstNumber : Nat) :
    property (origin.store firstNumber) := by
  cases origin with
  | fresh => exact fresh firstNumber
  | built entities faults =>
      have filled := List.foldlRecOn entities
        (fun store entry => (Store.addEntity store entry.1 entry.2).2) (fresh firstNumber)
        fun store holds entry _ => registered store entry.1 entry.2 holds
      exact List.foldlRecOn faults _ filled fun store holds fault _ =>
        framed store _ rfl holds
  | ofSnapshot snapshot =>
      change property (snapshot.groups.foldl
        (fun store group => Store.addAll store group.1 group.2) (empty firstNumber))
      refine List.foldlRecOn snapshot.groups _ (fresh firstNumber) fun store holds group _ => ?_
      exact List.foldlRecOn group.2 _ holds fun current holds fullName _ =>
        registered current group.1 fullName holds

/-- What holds of a new catalog, is kept by registering a name and speaks of the entities alone holds
of every catalog that is reached. -/
theorem Reachable.induction
    {store : Store}
    (reachable : store.Reachable) :
    property store := by
  obtain ⟨origin, firstNumber, actions, rfl⟩ := reachable
  have opened : property (SharedStore.opened origin firstNumber).store :=
    origin.store_induction fresh registered framed firstNumber
  refine List.foldlRecOn (motive := fun shared : SharedStore => property shared.store)
    actions SharedStore.act opened fun shared holds action _ => ?_
  cases action with
  | clone handle =>
      simp only [SharedStore.act]
      split <;> exact holds
  | call handle operation =>
      simp only [SharedStore.act]
      split
      · rcases operation.entities_perform shared.store with same | ⟨kind, fullName, same⟩
        · exact framed _ _ same holds
        · exact same ▸ registered shared.store kind fullName holds
      · exact holds

end Reachable

/-- Every entity is displayed under the name that its kind and full name call for. -/
def Titled (store : Store) : Prop :=
  ∀ kind fullName entity, store.entity? kind fullName = some entity →
    entity.name = displayName kind fullName

theorem Titled.name_addEntity
    {store : Store}
    (titled : store.Titled)
    (kind : EntityKind)
    (fullName : String) :
    (store.addEntity kind fullName).1.name = displayName kind fullName := by
  cases found : store.entity? kind fullName with
  | some entity =>
      rw [addEntity_of_some found]
      exact titled kind fullName entity found
  | none =>
      rw [addEntity_of_none found]
      rfl

theorem Titled.addEntity
    {store : Store}
    (titled : store.Titled)
    (kind : EntityKind)
    (fullName : String) :
    (store.addEntity kind fullName).2.Titled := by
  intro otherKind otherName entity found
  rw [entity?_addEntity] at found
  split at found
  · next same =>
    obtain ⟨rfl, rfl⟩ := same
    cases found
    exact titled.name_addEntity otherKind otherName
  · exact titled otherKind otherName entity found

theorem Reachable.titled
    {store : Store}
    (reachable : store.Reachable) :
    store.Titled := by
  refine Reachable.induction ?_ ?_ ?_ reachable
  · intro firstNumber kind fullName entity found
    rw [entity?_empty] at found
    nomatch found
  · exact fun store kind fullName titled => titled.addEntity kind fullName
  · intro older newer same titled kind fullName entity found
    rw [entity?, same] at found
    exact titled kind fullName entity found

/-! ## Names requested and names displayed -/

theorem createSuite_of_nonempty
    {request : SuiteRequest}
    (nonempty : request.name ≠ "")
    (store : Store) :
    (store.createSuite request).1 = .ok (store.addEntity .testSuite request.name).1 := by
  rw [createSuite, if_neg (by simpa using nonempty)]

theorem createDefinition_of_nonempty
    {request : DefinitionRequest}
    (nonempty : request.name ≠ "")
    (store : Store) :
    (store.createDefinition request).1 = .ok (store.addEntity .testDefinition request.name).1 := by
  rw [createDefinition, if_neg (by simpa using nonempty)]

theorem createCase_of_contains
    {store : Store}
    {request : CaseRequest}
    (present : store.contains .table request.link.table = true) :
    (store.createCase request).1 =
      .ok (store.addEntity .testCase (caseName request.link request.name)).1 := by
  rw [createCase, if_pos present]

/-- A request for a name that is not empty and has no double quote in it is answered with an entity
by every catalog that is reached, a case as long as its table is there. The entity, new or not, is
displayed under the name requested exactly if the name of the suite or definition has no dot in it,
or the quotes in the link of the case come in pairs. -/
theorem requested_name_kept_iff
    {store : Store}
    (reachable : store.Reachable) :
    (∀ request : SuiteRequest, request.name ≠ "" → '"' ∉ request.name.toList →
      ∃ entity, (store.createSuite request).1 = .ok entity ∧
        (entity.name = request.name ↔ '.' ∉ request.name.toList)) ∧
    (∀ request : DefinitionRequest, request.name ≠ "" → '"' ∉ request.name.toList →
      ∃ entity, (store.createDefinition request).1 = .ok entity ∧
        (entity.name = request.name ↔ '.' ∉ request.name.toList)) ∧
    ∀ request : CaseRequest, request.name ≠ "" → '"' ∉ request.name.toList →
      store.contains .table request.link.table = true →
        ∃ entity, (store.createCase request).1 = .ok entity ∧
          (entity.name = request.name ↔ PairedQuotes request.link) := by
  have titled := reachable.titled
  refine ⟨?_, ?_, ?_⟩
  · intro request nonempty unquoted
    refine ⟨_, createSuite_of_nonempty nonempty store, ?_⟩
    rw [titled.name_addEntity]
    exact lastPart_eq_self_iff unquoted
  · intro request nonempty unquoted
    refine ⟨_, createDefinition_of_nonempty nonempty store, ?_⟩
    rw [titled.name_addEntity]
    exact lastPart_eq_self_iff unquoted
  · intro request _ unquoted present
    refine ⟨_, createCase_of_contains present, ?_⟩
    rw [titled.name_addEntity]
    exact displayName_caseName_iff unquoted

/-- A catalog with a table that was opened for ingestion. -/
def onlyOrders : Store :=
  (Origin.built [(.table, "svc.db.sales.orders")] []).store 0

theorem reachable_onlyOrders : onlyOrders.Reachable :=
  ⟨.built [(.table, "svc.db.sales.orders")] [], 0, [], rfl⟩

/-- A case keeps the dot in its name where a definition of the same name loses what stands before
it. -/
theorem requested_name_kept_iff_on_dotted :
    onlyOrders.Reachable ∧
      (∃ suite, (onlyOrders.createSuite ⟨"DBT_TEST_SUITE", ""⟩).1 = .ok suite ∧
        suite.name = "DBT_TEST_SUITE") ∧
      (∃ definition, (onlyOrders.createDefinition ⟨"not_null.id", "", .column, [.dbt], []⟩).1 =
        .ok definition ∧ definition.name ≠ "not_null.id") ∧
      ∃ case, (onlyOrders.createCase
          ⟨"not_null.id", "", ⟨⟨"d"⟩, "testDefinition"⟩, ⟨"svc.db.sales.orders", some "id"⟩,
            ⟨⟨"s"⟩, "testSuite"⟩, []⟩).1 = .ok case ∧
        case.name = "not_null.id" := by
  obtain ⟨suites, definitions, cases⟩ := requested_name_kept_iff reachable_onlyOrders
  refine ⟨reachable_onlyOrders, ?_, ?_, ?_⟩
  · obtain ⟨suite, created, kept⟩ := suites ⟨"DBT_TEST_SUITE", ""⟩ (by decide) (by decide)
    exact ⟨suite, created, kept.mpr (by decide)⟩
  · obtain ⟨definition, created, kept⟩ :=
      definitions ⟨"not_null.id", "", .column, [.dbt], []⟩ (by decide) (by decide)
    exact ⟨definition, created, mt kept.mp (by decide)⟩
  · obtain ⟨case, created, kept⟩ := cases
      ⟨"not_null.id", "", ⟨⟨"d"⟩, "testDefinition"⟩, ⟨"svc.db.sales.orders", some "id"⟩,
        ⟨⟨"s"⟩, "testSuite"⟩, []⟩ (by decide) (by decide) (by decide)
    exact ⟨case, created, kept.mpr (by decide)⟩

/-- A suite created in a new catalog under a name with a dot is displayed under what stands behind
the dot. -/
theorem dotted_suite_renamed :
    (empty 0).Reachable ∧
      ∃ suite, ((empty 0).createSuite ⟨"finance.daily", ""⟩).1 = .ok suite ∧
        suite.name = "daily" ∧ suite.name ≠ "finance.daily" := by
  refine ⟨⟨.fresh, 0, [], rfl⟩, (empty 0).newEntity .testSuite "finance.daily", ?_, ?_, ?_⟩
  · rfl
  · decide
  · decide

end Store
end CatalogIngest
