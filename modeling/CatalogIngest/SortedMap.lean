/-!
# Maps in key order

A sorted map keeps its entries in a list with strictly increasing keys, ordered by code point.
Equality of maps is equality of their entries, walking a map is walking a list, and inserting a
key twice keeps the later value.
-/

namespace CatalogIngest

/-- Finite map from texts, with its entries in increasing key order. -/
structure SortedMap (α : Type) where
  entries : List (String × α)
  increasing : entries.Pairwise fun first second => first.1 < second.1

namespace SortedMap

/-- Put an entry at its place in an increasing list, replacing an entry of the same key. -/
def insertEntry {α : Type} (key : String) (value : α) : List (String × α) → List (String × α)
  | [] => [(key, value)]
  | entry :: later =>
      if key < entry.1 then (key, value) :: entry :: later
      else if key = entry.1 then (key, value) :: later
      else entry :: insertEntry key value later

theorem mem_of_mem_insertEntry {α : Type} {key : String} {value : α}
    {entries : List (String × α)} {entry : String × α}
    (member : entry ∈ insertEntry key value entries) :
    entry = (key, value) ∨ entry ∈ entries := by
  induction entries with
  | nil => simpa [insertEntry] using member
  | cons first later ih =>
    simp only [insertEntry] at member
    split at member
    · simpa using member
    · split at member
      · rcases List.mem_cons.1 member with same | inside
        · exact .inl same
        · exact .inr (List.mem_cons_of_mem _ inside)
      · rcases List.mem_cons.1 member with same | inside
        · exact .inr (by simp [same])
        · rcases ih inside with new | old
          · exact .inl new
          · exact .inr (List.mem_cons_of_mem _ old)

theorem lt_of_not_lt_of_ne {first second : String}
    (notBelow : ¬ first < second) (different : first ≠ second) : second < first := by
  by_cases below : second < first
  · exact below
  · exact absurd (String.le_antisymm (String.not_lt.1 below) (String.not_lt.1 notBelow)) different

theorem increasing_insertEntry {α : Type} {key : String} {value : α}
    {entries : List (String × α)}
    (increasing : entries.Pairwise fun first second => first.1 < second.1) :
    (insertEntry key value entries).Pairwise fun first second => first.1 < second.1 := by
  induction entries with
  | nil => simp [insertEntry]
  | cons first later ih =>
    obtain ⟨above, rest⟩ := List.pairwise_cons.1 increasing
    simp only [insertEntry]
    split
    · next below =>
      refine List.pairwise_cons.2 ⟨?_, increasing⟩
      intro entry member
      rcases List.mem_cons.1 member with same | inside
      · simpa [same] using below
      · exact String.lt_trans below (above entry inside)
    · next notBelow =>
      split
      · next same =>
        exact List.pairwise_cons.2 ⟨fun entry member => by simpa [same] using above entry member,
          rest⟩
      · next different =>
        refine List.pairwise_cons.2 ⟨?_, ih rest⟩
        intro entry member
        rcases mem_of_mem_insertEntry member with new | old
        · simpa [new] using lt_of_not_lt_of_ne notBelow different
        · exact above entry old

variable {α β : Type}

/-- The map without entries. -/
def empty : SortedMap α :=
  ⟨[], List.Pairwise.nil⟩

instance : Inhabited (SortedMap α) := ⟨empty⟩

instance [DecidableEq α] : DecidableEq (SortedMap α) := fun first second =>
  decidable_of_iff (first.entries = second.entries) (by cases first; cases second; simp)

/-- Bind a key to a value, replacing any earlier value. -/
def insert (map : SortedMap α) (key : String) (value : α) : SortedMap α :=
  ⟨insertEntry key value map.entries, increasing_insertEntry map.increasing⟩

/-- The value bound to a key. -/
def get? (map : SortedMap α) (key : String) : Option α :=
  map.entries.lookup key

/-- Whether a key is bound. -/
def contains (map : SortedMap α) (key : String) : Bool :=
  (map.get? key).isSome

/-- The keys in increasing order. -/
def keys (map : SortedMap α) : List String :=
  map.entries.map (·.1)

/-- The values in key order. -/
def values (map : SortedMap α) : List α :=
  map.entries.map (·.2)

/-- The number of entries. -/
def size (map : SortedMap α) : Nat :=
  map.entries.length

/-- Bind every key of a list in turn, so that the last binding of a key stays. -/
def insertAll (map : SortedMap α) (bindings : List (String × α)) : SortedMap α :=
  bindings.foldl (fun current binding => current.insert binding.1 binding.2) map

/-- The map of a list of bindings, the last binding of a key winning. -/
def ofList (bindings : List (String × α)) : SortedMap α :=
  empty.insertAll bindings

/-- The first map with the bindings of the second laid over it. -/
def overlay (lower upper : SortedMap α) : SortedMap α :=
  lower.insertAll upper.entries

/-- Transform or drop each entry, keeping the keys of those that stay. -/
def filterMap (transform : String → α → Option β) (map : SortedMap α) : SortedMap β where
  entries := map.entries.filterMap fun entry =>
    (transform entry.1 entry.2).map fun value => (entry.1, value)
  increasing := by
    refine List.Pairwise.filterMap _ ?_ map.increasing
    intro first second below left leftMember right rightMember
    simp only [Option.map_eq_some_iff] at leftMember rightMember
    obtain ⟨_, _, rfl⟩ := leftMember
    obtain ⟨_, _, rfl⟩ := rightMember
    exact below

/-- Keep the entries whose value passes a test. -/
def filter (keep : α → Bool) (map : SortedMap α) : SortedMap α where
  entries := map.entries.filter fun entry => keep entry.2
  increasing := map.increasing.filter _

/-- Transform every value. -/
def map (transform : α → β) (source : SortedMap α) : SortedMap β where
  entries := source.entries.map fun entry => (entry.1, transform entry.2)
  increasing := List.Pairwise.map _ (fun _ _ below => below) source.increasing

@[ext] theorem ext {first second : SortedMap α} (same : first.entries = second.entries) :
    first = second := by
  cases first
  cases second
  simpa using same

@[simp] theorem entries_empty : (empty : SortedMap α).entries = [] := rfl

@[simp] theorem get?_empty (key : String) : (empty : SortedMap α).get? key = none := rfl

theorem lookup_insertEntry_same (key : String) (value : α) (entries : List (String × α)) :
    (insertEntry key value entries).lookup key = some value := by
  induction entries with
  | nil => simp [insertEntry]
  | cons first later ih =>
    obtain ⟨name, held⟩ := first
    simp only [insertEntry]
    split
    · simp
    · split
      · simp
      · next different => simpa [List.lookup_cons, beq_eq_false_iff_ne.2 different] using ih

theorem lookup_insertEntry_other {key other : String} (different : other ≠ key) (value : α)
    (entries : List (String × α)) :
    (insertEntry key value entries).lookup other = entries.lookup other := by
  induction entries with
  | nil => simp [insertEntry, List.lookup_cons, beq_eq_false_iff_ne.2 different]
  | cons first later ih =>
    obtain ⟨name, held⟩ := first
    simp only [insertEntry]
    split
    · simp [List.lookup_cons, beq_eq_false_iff_ne.2 different]
    · split
      · next same =>
        have passed : other ≠ name := by simpa [same] using different
        simp [List.lookup_cons, beq_eq_false_iff_ne.2 different, beq_eq_false_iff_ne.2 passed]
      · simp [List.lookup_cons, ih]

/-- Looking up the key just bound gives its value. -/
@[simp] theorem get?_insert_same (map : SortedMap α) (key : String) (value : α) :
    (map.insert key value).get? key = some value :=
  lookup_insertEntry_same key value map.entries

/-- Binding one key leaves the others as they were. -/
theorem get?_insert_other (map : SortedMap α) {key other : String} (different : other ≠ key)
    (value : α) : (map.insert key value).get? other = map.get? other :=
  lookup_insertEntry_other different value map.entries

/-- Keys are strictly increasing. -/
theorem keys_increasing (map : SortedMap α) : map.keys.Pairwise (· < ·) :=
  List.pairwise_map.2 map.increasing

end SortedMap
end CatalogIngest
