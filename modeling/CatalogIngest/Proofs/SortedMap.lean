import CatalogIngest.SortedMap
import Mathlib.Data.Finset.Card
import Mathlib.Data.List.Induction
import Mathlib.Data.List.Nodup

/-!
# Laws of sorted maps

A sorted map is determined by its look-ups: a binding is an entry exactly if looking its key up
finds its value, and the keys are exactly those that a look-up finds. So the number of entries
after a list of insertions is the number of different keys in the list.
-/

namespace CatalogIngest

/-- A list without repetition is as long as a list of the same items exactly if that has none
either. -/
theorem length_eq_iff_of_mem_iff
    {α : Type}
    [DecidableEq α]
    {distinct items : List α}
    (once : distinct.Nodup)
    (same : ∀ item, item ∈ distinct ↔ item ∈ items) :
    distinct.length = items.length ↔ items.Nodup := by
  have sameItems : distinct.toFinset = items.toFinset := by
    ext item
    rw [List.mem_toFinset, List.mem_toFinset, same]
  have counted : distinct.length = items.dedup.length := by
    rw [← List.toFinset_card_of_nodup once, sameItems, List.card_toFinset]
  rw [counted]
  constructor
  · intro sameLength
    rw [← List.dedup_eq_self]
    exact (List.dedup_sublist _).eq_of_length sameLength
  · intro itemsOnce
    rw [List.dedup_eq_self.mpr itemsOnce]

/-- Lists whose items bear different marks have no item twice together exactly if each of them has
none twice. -/
theorem nodup_flatMap_iff_of_marks
    {α β κ : Type}
    {list : α → List β}
    {mark : α → κ}
    {markOf : β → κ}
    (marked : ∀ source, ∀ item ∈ list source, markOf item = mark source)
    {sources : List α}
    (different : (sources.map mark).Nodup) :
    (sources.flatMap list).Nodup ↔ ∀ source ∈ sources, (list source).Nodup := by
  rw [List.nodup_flatMap, and_iff_left]
  refine (List.pairwise_map.mp different).imp fun {first second} apart item ofFirst ofSecond => ?_
  exact apart ((marked first item ofFirst).symm.trans (marked second item ofSecond))

namespace SortedMap

variable {α β : Type}

/-- Looking a key up finds exactly the value of its entry. -/
theorem get?_eq_some_iff
    (map : SortedMap α)
    (key : String)
    (value : α) :
    map.get? key = some value ↔ (key, value) ∈ map.entries := by
  obtain ⟨entries, increasing⟩ := map
  unfold get?
  induction entries with
  | nil => simp
  | cons first later inductionHypothesis =>
      obtain ⟨above, rest⟩ := List.pairwise_cons.mp increasing
      obtain ⟨name, held⟩ := first
      by_cases same : key = name
      · subst same
        have absent : (key, value) ∉ later := by
          intro member
          exact String.lt_irrefl key (above (key, value) member)
        simp [absent, eq_comm]
      · have tail := inductionHypothesis rest
        simpa [List.lookup_cons, beq_eq_false_iff_ne.mpr same, same] using tail

theorem mem_keys_iff
    (map : SortedMap α)
    (key : String) :
    key ∈ map.keys ↔ ∃ value, map.get? key = some value := by
  unfold keys
  constructor
  · intro member
    obtain ⟨entry, inside, rfl⟩ := List.mem_map.mp member
    exact ⟨entry.2, (get?_eq_some_iff map entry.1 entry.2).mpr inside⟩
  · rintro ⟨value, found⟩
    exact List.mem_map.mpr
      ⟨(key, value), (get?_eq_some_iff map key value).mp found, rfl⟩

theorem length_keys (map : SortedMap α) : map.keys.length = map.size :=
  List.length_map _

theorem nodup_keys (map : SortedMap α) : map.keys.Nodup :=
  map.keys_increasing.imp fun below same => by
    subst same
    exact String.lt_irrefl _ below

/-- No key is bound a second time behind its entry. -/
theorem key_ne_of_mem_later
    {map : SortedMap α}
    {before after : List (String × α)}
    {entry : String × α}
    (split : map.entries = before ++ entry :: after) :
    ∀ later ∈ after, later.1 ≠ entry.1 := by
  intro later among same
  have distinct := map.nodup_keys
  rw [keys, split, List.map_append, List.map_cons] at distinct
  exact (List.nodup_cons.mp (List.nodup_append.mp distinct).2.1).1
    (List.mem_map.mpr ⟨later, among, same⟩)

/-- Binding a key changes the look-ups of that key only. -/
theorem get?_insert
    (map : SortedMap α)
    (key other : String)
    (value : α) :
    (map.insert key value).get? other =
      if other = key then some value else map.get? other := by
  split
  · next same => rw [same, get?_insert_same]
  · next different => exact get?_insert_other map different value

theorem mem_keys_insert
    (map : SortedMap α)
    (key other : String)
    (value : α) :
    other ∈ (map.insert key value).keys ↔ other = key ∨ other ∈ map.keys := by
  simp only [mem_keys_iff, get?_insert]
  split
  · next same => simp [same]
  · next different => simp [different]

theorem insertAll_append
    (map : SortedMap α)
    (earlier later : List (String × α)) :
    map.insertAll (earlier ++ later) = (map.insertAll earlier).insertAll later :=
  List.foldl_append

theorem mem_keys_insertAll
    (map : SortedMap α)
    (bindings : List (String × α))
    (key : String) :
    key ∈ (map.insertAll bindings).keys ↔ key ∈ bindings.map Prod.fst ∨ key ∈ map.keys := by
  induction bindings generalizing map with
  | nil => simp [insertAll]
  | cons binding later inductionHypothesis =>
      have rest := inductionHypothesis (map.insert binding.1 binding.2)
      rw [mem_keys_insert] at rest
      rw [List.map_cons, List.mem_cons, or_assoc, or_left_comm]
      exact rest

/-- A key that a list does not bind is looked up as before. -/
theorem get?_insertAll_of_not_mem
    (map : SortedMap α)
    {bindings : List (String × α)}
    {key : String}
    (unbound : key ∉ bindings.map Prod.fst) :
    (map.insertAll bindings).get? key = map.get? key := by
  induction bindings generalizing map with
  | nil => rfl
  | cons binding later inductionHypothesis =>
      rw [List.map_cons, List.mem_cons, not_or] at unbound
      exact (inductionHypothesis _ unbound.2).trans (get?_insert_other map unbound.1 _)

/-- The last binding of a key is the one that is looked up. -/
theorem get?_insertAll_last
    (map : SortedMap α)
    (earlier later : List (String × α))
    {key : String}
    (value : α)
    (last : key ∉ later.map Prod.fst) :
    (map.insertAll (earlier ++ (key, value) :: later)).get? key = some value := by
  rw [insertAll_append]
  exact (get?_insertAll_of_not_mem _ last).trans (get?_insert_same _ key value)

/-- What is looked up in the map of a list is the last binding of a key. -/
theorem get?_ofList_eq_some_iff
    (bindings : List (String × α))
    (key : String)
    (value : α) :
    (ofList bindings).get? key = some value ↔
      ∃ before after, bindings = before ++ (key, value) :: after ∧ key ∉ after.map Prod.fst := by
  constructor
  · intro found
    induction bindings using List.reverseRecOn with
    | nil => nomatch found
    | append_singleton earlier last inductionHypothesis =>
        rw [ofList, insertAll_append] at found
        change ((ofList earlier).insert last.1 last.2).get? key = some value at found
        rw [get?_insert] at found
        split at found
        · next same =>
          cases found
          exact ⟨earlier, [], by rw [same], List.not_mem_nil⟩
        · next different =>
          obtain ⟨before, after, split, unbound⟩ := inductionHypothesis found
          refine ⟨before, after ++ [last], by simp [split], ?_⟩
          simp [unbound, different]
  · rintro ⟨before, after, rfl, unbound⟩
    exact get?_insertAll_last .empty before after value unbound

/-- A list of bindings fills a map with as many entries exactly if it binds no key twice. -/
theorem size_ofList_eq_length_iff
    (bindings : List (String × α)) :
    (ofList bindings).size = bindings.length ↔ (bindings.map Prod.fst).Nodup := by
  rw [← length_keys, ← List.length_map Prod.fst]
  refine length_eq_iff_of_mem_iff (nodup_keys _) fun key => ?_
  rw [ofList, mem_keys_insertAll]
  exact or_iff_left List.not_mem_nil

/-- Every entry after binding a list of keys stems from the list or was there before. -/
theorem mem_of_mem_insertAll
    {map : SortedMap α}
    {bindings : List (String × α)}
    {entry : String × α}
    (member : entry ∈ (map.insertAll bindings).entries) :
    entry ∈ bindings ∨ entry ∈ map.entries := by
  induction bindings generalizing map with
  | nil => exact .inr member
  | cons binding later inductionHypothesis =>
      rcases inductionHypothesis member with inside | before
      · exact .inl (List.mem_cons_of_mem _ inside)
      · rcases mem_of_mem_insertEntry before with same | inside
        · exact .inl (same ▸ List.mem_cons_self)
        · exact .inr inside

/-! ## Laying one map over another -/

/-- A key is looked up in the upper map, and in the lower one if the upper one does not bind it. -/
theorem get?_overlay
    (lower upper : SortedMap α)
    (key : String) :
    (lower.overlay upper).get? key = (upper.get? key).or (lower.get? key) := by
  cases found : upper.get? key with
  | none =>
      refine get?_insertAll_of_not_mem lower fun bound => ?_
      obtain ⟨value, binds⟩ := (mem_keys_iff upper key).mp bound
      rw [found] at binds
      nomatch binds
  | some value =>
      obtain ⟨before, after, split⟩ :=
        List.append_of_mem ((get?_eq_some_iff upper key value).mp found)
      rw [overlay, split, Option.some_or]
      refine get?_insertAll_last lower before after value fun bound => ?_
      obtain ⟨entry, later, same⟩ := List.mem_map.mp bound
      exact key_ne_of_mem_later split entry later same

theorem mem_keys_overlay
    (lower upper : SortedMap α)
    (key : String) :
    key ∈ (lower.overlay upper).keys ↔ key ∈ upper.keys ∨ key ∈ lower.keys :=
  mem_keys_insertAll lower upper.entries key

/-- An overlay has as many entries as there are different keys in the two maps. -/
theorem size_overlay
    (lower upper : SortedMap α) :
    (lower.overlay upper).size = (lower.keys.toFinset ∪ upper.keys.toFinset).card := by
  have sameKeys : (lower.overlay upper).keys.toFinset =
      lower.keys.toFinset ∪ upper.keys.toFinset := by
    ext key
    simp only [Finset.mem_union, List.mem_toFinset, mem_keys_overlay]
    exact Or.comm
  rw [← sameKeys, List.toFinset_card_of_nodup (nodup_keys _), length_keys]

/-! ## Entries of one key -/

/-- The only entry of a key is the one that is looked up. -/
theorem filter_entries_of_key
    (map : SortedMap α)
    (key : String) :
    (map.entries.filter fun entry => entry.1 = key) =
      ((map.get? key).map fun value => (key, value)).toList := by
  cases found : map.get? key with
  | none =>
      refine List.filter_eq_nil_iff.mpr fun entry listed same => ?_
      have binds := (get?_eq_some_iff map entry.1 entry.2).mpr listed
      rw [of_decide_eq_true same, found] at binds
      nomatch binds
  | some value =>
      have listed := (get?_eq_some_iff map key value).mp found
      obtain ⟨before, after, split⟩ := List.append_of_mem listed
      have earlier : ∀ entry ∈ before, ¬ decide (entry.1 = key) = true := by
        intro entry among same
        have increasing := map.increasing
        rw [split] at increasing
        have below := (List.pairwise_append.mp increasing).2.2 entry among _ List.mem_cons_self
        rw [of_decide_eq_true same] at below
        exact String.lt_irrefl _ below
      have later : ∀ entry ∈ after, ¬ decide (entry.1 = key) = true := by
        intro entry among same
        exact key_ne_of_mem_later split entry among (of_decide_eq_true same)
      have here : decide ((key, value).1 = key) = true := decide_eq_true rfl
      rw [split, List.filter_append, List.filter_eq_nil_iff.mpr earlier, List.filter_cons,
        if_pos here, List.filter_eq_nil_iff.mpr later]
      rfl

/-! ## Transforming values -/

theorem get?_filterMap
    (transform : String → α → Option β)
    (source : SortedMap α)
    (key : String) :
    (source.filterMap transform).get? key = (source.get? key).bind (transform key) := by
  ext value
  rw [get?_eq_some_iff, filterMap, List.mem_filterMap, Option.bind_eq_some_iff]
  constructor
  · rintro ⟨entry, listed, transformed⟩
    obtain ⟨result, made, same⟩ := Option.map_eq_some_iff.mp transformed
    obtain ⟨rfl, rfl⟩ := Prod.mk.inj same
    exact ⟨entry.2, (get?_eq_some_iff source entry.1 entry.2).mpr listed, made⟩
  · rintro ⟨held, found, made⟩
    refine ⟨(key, held), (get?_eq_some_iff source key held).mp found, ?_⟩
    rw [made, Option.map_some]

theorem get?_map
    (transform : α → β)
    (source : SortedMap α)
    (key : String) :
    (source.map transform).get? key = (source.get? key).map transform := by
  ext value
  rw [get?_eq_some_iff, Option.map_eq_some_iff, map, List.mem_map]
  constructor
  · rintro ⟨entry, listed, same⟩
    obtain ⟨rfl, rfl⟩ := Prod.mk.inj same
    exact ⟨entry.2, (get?_eq_some_iff source entry.1 entry.2).mpr listed, rfl⟩
  · rintro ⟨held, found, rfl⟩
    exact ⟨(key, held), (get?_eq_some_iff source key held).mp found, rfl⟩

theorem keys_map
    (transform : α → β)
    (source : SortedMap α) :
    (source.map transform).keys = source.keys :=
  List.map_map

theorem map_insertEntry
    (transform : α → β)
    (key : String)
    (value : α)
    (entries : List (String × α)) :
    (insertEntry key value entries).map (fun entry => (entry.1, transform entry.2)) =
      insertEntry key (transform value)
        (entries.map fun entry => (entry.1, transform entry.2)) := by
  induction entries with
  | nil => rfl
  | cons first later inductionHypothesis =>
      rw [insertEntry, List.map_cons, insertEntry]
      by_cases below : key < first.1
      · rw [if_pos below, if_pos below]
        rfl
      · rw [if_neg below, if_neg below]
        by_cases same : key = first.1
        · rw [if_pos same, if_pos same]
          rfl
        · rw [if_neg same, if_neg same, List.map_cons, inductionHypothesis]

/-- Binding keys and transforming values may be done in either order. -/
theorem map_insertAll
    (transform : α → β)
    (source : SortedMap α)
    (bindings : List (String × α)) :
    (source.insertAll bindings).map transform =
      (source.map transform).insertAll
        (bindings.map fun binding => (binding.1, transform binding.2)) := by
  induction bindings generalizing source with
  | nil => rfl
  | cons binding later inductionHypothesis =>
      have inserted : (source.insert binding.1 binding.2).map transform =
          (source.map transform).insert binding.1 (transform binding.2) :=
        SortedMap.ext (map_insertEntry transform binding.1 binding.2 source.entries)
      refine (inductionHypothesis _).trans ?_
      rw [inserted]
      rfl

end SortedMap
end CatalogIngest
