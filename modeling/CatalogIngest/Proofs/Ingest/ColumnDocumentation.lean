import CatalogIngest.Ingest.Ingestion
import CatalogIngest.Proofs.SortedMap
import CatalogIngest.Proofs.Text.LowerCase

/-!
# Which documentation a column gets

A manifest may describe a column under several spellings of its name. One of them is looked at: the
lower-case spelling if the manifest has it, else the first one. If it has no text, the comment in the
warehouse is taken, also where another spelling has a text. So documentation in the manifest prevails
over comments as long as the spelling that is looked at has a text whenever any has.
-/

namespace CatalogIngest

@[simp] theorem nonempty?_nonempty?
    (text : Option String) :
    nonempty? (nonempty? text) = nonempty? text := by
  simp [nonempty?, Option.filter_filter]

@[simp] theorem Text.lowerString_lowerString
    (text : String) :
    lowerString (lowerString text) = lowerString text := by
  simp [lowerString, lower_lower]

namespace ManifestNode

variable
  (node : ManifestNode)
  (column : String)

/-- The definitions of a column under all spellings of its name, in the order of the spellings. -/
def spellings : List (String × ColumnDefinition) :=
  node.columns.entries.filter fun entry => Text.lowerString entry.1 = Text.lowerString column

/-- The texts that the manifest has for a column, under whichever spelling of its name. -/
def documentation : List String :=
  (node.spellings column).filterMap fun entry => nonempty? entry.2.description

/-- The definition of a column that is looked at: that under the lower-case spelling of its name, or
else the first one. -/
def preferred? : Option (String × ColumnDefinition) :=
  ((node.spellings column).find? fun entry => entry.1 = Text.lowerString column).or
    (node.spellings column).head?

/-- The lower-case spelling is found by looking it up. -/
theorem find?_spellings :
    ((node.spellings column).find? fun entry => entry.1 = Text.lowerString column) =
      (node.columns.get? (Text.lowerString column)).map fun definition =>
        (Text.lowerString column, definition) := by
  have isSpelling : ∀ entry : String × ColumnDefinition,
      (decide (entry.1 = Text.lowerString column) &&
          decide (Text.lowerString entry.1 = Text.lowerString column)) =
        decide (entry.1 = Text.lowerString column) := by
    intro entry
    by_cases same : entry.1 = Text.lowerString column <;> simp [same]
  rw [← List.head?_filter, spellings, List.filter_filter]
  simp only [isSpelling]
  rw [SortedMap.filter_entries_of_key]
  cases node.columns.get? (Text.lowerString column) <;> rfl

theorem columnDefinition_eq_preferred? :
    node.columnDefinition column = (node.preferred? column).map Prod.snd := by
  rw [columnDefinition, preferred?, find?_spellings]
  cases node.columns.get? (Text.lowerString column) with
  | some definition => rfl
  | none =>
      rw [Option.map_none, Option.none_or, spellings, List.head?_filter]

theorem preferred?_mem_spellings
    {entry : String × ColumnDefinition}
    (preferred : node.preferred? column = some entry) :
    entry ∈ node.spellings column := by
  rcases Option.or_eq_some_iff.mp preferred with found | ⟨-, first⟩
  · exact List.mem_of_find?_eq_some found
  · exact List.mem_of_head? first

theorem columnDescription_eq :
    node.columnDescription column =
      (node.preferred? column).bind fun entry => nonempty? entry.2.description := by
  rw [columnDescription, columnDefinition_eq_preferred?]
  cases node.preferred? column <;> rfl

/-- A text that is found for a column is one that the manifest has for it. -/
theorem mem_documentation_of_columnDescription
    {text : String}
    (described : node.columnDescription column = some text) :
    text ∈ node.documentation column := by
  rw [columnDescription_eq] at described
  obtain ⟨entry, preferred, hasText⟩ := Option.bind_eq_some_iff.mp described
  exact List.mem_filterMap.mpr ⟨entry, node.preferred?_mem_spellings column preferred, hasText⟩

/-- A description of a column respects the manifest: it is a text that the manifest has for the
column, if there is one, and otherwise the comment in the warehouse, unless that is empty. -/
structure Prevails (found : CatalogColumn) (description : Option String) : Prop where
  documented : node.documentation found.name ≠ [] →
    ∃ text ∈ node.documentation found.name, description = some text
  undocumented : node.documentation found.name = [] → description = nonempty? found.comment

end ManifestNode

/-- A column has the text of the manifest, or else the comment in the warehouse. -/
theorem ModelResolver.description_column
    {σ : Type}
    (resolver : ModelResolver σ)
    (node : ManifestNode)
    (found : CatalogColumn) :
    (resolver.column node found).description =
      (node.columnDescription found.name).or (nonempty? found.comment) := by
  have settled : nonempty? (node.columnDescription found.name) =
      node.columnDescription found.name :=
    nonempty?_nonempty? _
  unfold column Column.of
  dsimp only
  cases hasText : node.columnDescription found.name with
  | none => simp
  | some text =>
      rw [hasText] at settled
      simp [settled]

/-- The description of a column is the text of the one definition that is looked at, or else the
comment in the warehouse. So documentation in the manifest prevails exactly if there is none, or the
definition that is looked at has a text, or the comment happens to be one of the other texts. -/
theorem ModelResolver.documentation_prevails_iff
    {σ : Type}
    (resolver : ModelResolver σ)
    (node : ManifestNode)
    (found : CatalogColumn) :
    let description := (resolver.column node found).description
    let text? := (node.preferred? found.name).bind fun entry => nonempty? entry.2.description
    description = text?.or (nonempty? found.comment) ∧
      (node.Prevails found description ↔
        node.documentation found.name = [] ∨ text? ≠ none ∨
          ∃ text ∈ node.documentation found.name, nonempty? found.comment = some text) := by
  intro description text?
  have isDescription : node.columnDescription found.name = text? :=
    node.columnDescription_eq found.name
  have described : description = text?.or (nonempty? found.comment) := by
    rw [← isDescription]
    exact resolver.description_column node found
  refine ⟨described, fun prevails => ?_, fun condition => ?_⟩
  · by_cases documented : node.documentation found.name = []
    · exact .inl documented
    · obtain ⟨text, among, same⟩ := prevails.documented documented
      cases chosen : text? with
      | some _ => exact .inr (.inl (by simp))
      | none =>
          rw [described, chosen, Option.none_or] at same
          exact .inr (.inr ⟨text, among, same⟩)
  · cases chosen : text? with
    | some text =>
        have among := node.mem_documentation_of_columnDescription found.name
          (isDescription.trans chosen)
        rw [chosen, Option.some_or] at described
        exact ⟨fun _ => ⟨text, among, described⟩, fun none => by simp [none] at among⟩
    | none =>
        rw [chosen, Option.none_or] at described
        refine ⟨fun documented => ?_, fun _ => described⟩
        rcases condition with undocumented | hasText | ⟨text, among, same⟩
        · exact absurd undocumented documented
        · exact absurd chosen hasText
        · exact ⟨text, among, described.trans same⟩

/-- A node whose manifest has two spellings of a column, of which only the one that is not in lower
case has a text. -/
def ManifestNode.spelledTwice : ManifestNode :=
  { (default : ManifestNode) with
    columns := .ofList
      [("ID", ⟨"ID", some "Primary key", none⟩), ("id", ⟨"id", some "", none⟩)] }

/-- The comment is taken although the manifest has a text for the column. -/
theorem ModelResolver.comment_prevails_over_other_spelling :
    let resolver : ModelResolver Store := ⟨.inMemory "svc", ⟨.empty, .empty, []⟩, []⟩
    let found : CatalogColumn := ⟨"ID", "integer", 1, some "warehouse comment"⟩
    ¬ ManifestNode.spelledTwice.Prevails found
      (resolver.column .spelledTwice found).description := by
  intro resolver found prevails
  have documented : ManifestNode.spelledTwice.documentation found.name = ["Primary key"] := by
    decide +kernel
  have described :
      (resolver.column .spelledTwice found).description = some "warehouse comment" := by
    decide +kernel
  obtain ⟨text, among, same⟩ := prevails.documented (by simp [documented])
  rw [documented, List.mem_singleton] at among
  rw [described, among] at same
  exact absurd same (by decide)

end CatalogIngest
