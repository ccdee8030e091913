import CatalogIngest.Json.Tagged
import Mathlib.Data.List.Forall2

/-!
# Recovering data from their JSON form

The members of an object have no order: a value lists them as they were written, or by name if it
comes from a text. A decoder recovers a datum from a value if it gives that datum for every value with
the same content. For a record this comes down to its fields, each of which finds its own member; for
a tagged datum, to the variant that the tag names.
-/

namespace CatalogIngest
namespace Json

/-! ## Values with their members in another order -/

/-- Another value with the same content: its objects list the same names, in any order, with values
of the same content. -/
inductive Value.Rearranged : Value → Value → Prop
  | refl (value : Value) : Rearranged value value
  | array {items others : List Value} (alike : List.Forall₂ Rearranged items others) :
      Rearranged (.array items) (.array others)
  | object {members aligned others : List (String × Value)}
      (sameNames : members.map Prod.fst = aligned.map Prod.fst)
      (alike : List.Forall₂ Rearranged (members.map Prod.snd) (aligned.map Prod.snd))
      (order : aligned.Perm others) : Rearranged (.object members) (.object others)

/-- A member of the same name, with a value of the same content. -/
def MemberAlike (member other : String × Value) : Prop :=
  member.1 = other.1 ∧ member.2.Rearranged other.2

/-- The members of an object in any order, each with a value of the same content. -/
def MembersRearranged (members others : List (String × Value)) : Prop :=
  ∃ aligned, List.Forall₂ MemberAlike members aligned ∧ aligned.Perm others

theorem forall₂_memberAlike_iff
    {members aligned : List (String × Value)} :
    List.Forall₂ MemberAlike members aligned ↔
      members.map Prod.fst = aligned.map Prod.fst ∧
        List.Forall₂ Value.Rearranged (members.map Prod.snd) (aligned.map Prod.snd) := by
  induction members generalizing aligned with
  | nil => cases aligned <;> simp
  | cons member later inductionHypothesis =>
      cases aligned with
      | nil => simp
      | cons other rest =>
          simp only [List.forall₂_cons, List.map_cons, List.cons.injEq, inductionHypothesis,
            MemberAlike]
          exact and_and_and_comm

/-- The same members in another order. -/
theorem MembersRearranged.of_perm
    {members others : List (String × Value)}
    (order : members.Perm others) :
    MembersRearranged members others :=
  ⟨members, List.forall₂_same.mpr fun member _ => ⟨rfl, .refl member.2⟩, order⟩

namespace Value

theorem Rearranged.of_array
    {items : List Value}
    {other : Value}
    (rearranged : Rearranged (.array items) other) :
    ∃ others, other = .array others ∧ List.Forall₂ Rearranged items others := by
  cases rearranged with
  | refl => exact ⟨items, rfl, List.forall₂_same.mpr fun item _ => .refl item⟩
  | @array _ others alike => exact ⟨others, rfl, alike⟩

theorem Rearranged.of_object
    {members : List (String × Value)}
    {other : Value}
    (rearranged : Rearranged (.object members) other) :
    ∃ others, other = .object others ∧ MembersRearranged members others := by
  cases rearranged with
  | refl =>
      exact ⟨members, rfl, .of_perm (.refl members)⟩
  | @object _ aligned others sameNames alike order =>
      exact ⟨others, rfl, aligned, forall₂_memberAlike_iff.mpr ⟨sameNames, alike⟩, order⟩

theorem rearranged_object
    {members others : List (String × Value)}
    (rearranged : MembersRearranged members others) :
    Rearranged (.object members) (.object others) := by
  obtain ⟨aligned, alike, order⟩ := rearranged
  obtain ⟨sameNames, sameContent⟩ := forall₂_memberAlike_iff.mp alike
  exact .object sameNames sameContent order

theorem Rearranged.ne_null
    {value other : Value}
    (rearranged : value.Rearranged other)
    (present : value ≠ .null) :
    other ≠ .null := by
  rintro rfl
  cases rearranged
  exact present rfl

end Value

namespace MembersRearranged

/-- The members of some names are rearranged too. -/
theorem filter
    {members others : List (String × Value)}
    (rearranged : MembersRearranged members others)
    (keep : String → Bool) :
    MembersRearranged (members.filter fun member => keep member.1)
      (others.filter fun member => keep member.1) := by
  obtain ⟨aligned, alike, order⟩ := rearranged
  refine ⟨aligned.filter fun member => keep member.1, List.rel_filter ?_ alike, order.filter _⟩
  rintro member other ⟨sameName, -⟩
  simp only [sameName]

theorem of_singleton
    {name : String}
    {value : Value}
    {others : List (String × Value)}
    (rearranged : MembersRearranged [(name, value)] others) :
    ∃ other, others = [(name, other)] ∧ value.Rearranged other := by
  obtain ⟨aligned, alike, order⟩ := rearranged
  cases alike with
  | @cons _ found _ _ first rest =>
      cases rest
      obtain ⟨rfl, same⟩ := first
      exact ⟨found.2, order.singleton_eq.symm, same⟩

/-- The only member of some names is found, with a value of the same content. -/
theorem find
    {members others : List (String × Value)}
    (rearranged : MembersRearranged members others)
    (keep : String → Bool)
    {name : String}
    {value : Value}
    (listed : (members.filter fun member => keep member.1) = [(name, value)]) :
    ∃ other, (others.filter fun member => keep member.1) = [(name, other)] ∧
      value.Rearranged other := by
  have filtered := rearranged.filter keep
  rw [listed] at filtered
  exact filtered.of_singleton

end MembersRearranged

/-! ## Successful results -/

theorem map_eq_ok_iff
    {α β ε : Type}
    {result : Except ε α}
    {transform : α → β}
    {datum : β} :
    result.map transform = .ok datum ↔ ∃ made, result = .ok made ∧ transform made = datum := by
  cases result <;> simp [Except.map]

theorem mapError_eq_ok_iff
    {α ε problem : Type}
    {result : Except ε α}
    {transform : ε → problem}
    {datum : α} :
    result.mapError transform = .ok datum ↔ result = .ok datum := by
  cases result <;> simp [Except.mapError]

/-! ## Decoders of single values -/

/-- The decoder gives a datum for every value with the content of a given one. -/
def Decoder.Recovers {α : Type} (decode : Decoder α) (value : Value) (datum : α) : Prop :=
  ∀ source other, value.Rearranged other → decode source other = .ok datum

namespace Decoder

variable {α β : Type}

theorem string_recovers (text : String) : string.Recovers (.string text) text := by
  intro source other rearranged
  cases rearranged
  rfl

theorem boolean_recovers (truth : Bool) : boolean.Recovers (.boolean truth) truth := by
  intro source other rearranged
  cases rearranged
  rfl

theorem integerIn_recovers
    {low high number : Int}
    (wanted : String)
    (within : low ≤ number ∧ number ≤ high) :
    (integerIn low high wanted).Recovers (.ofInt number) number := by
  intro source other rearranged
  cases rearranged
  exact if_pos within

theorem Recovers.map
    {decode : Decoder α}
    {value : Value}
    {datum : α}
    (recovers : decode.Recovers value datum)
    {transform : α → β}
    {result : β}
    (same : transform datum = result) :
    Recovers (fun source other => (decode source other).map transform) value result := by
  intro source other rearranged
  exact map_eq_ok_iff.mpr ⟨datum, recovers source other rearranged, same⟩

theorem word16_recovers (word : UInt16) : word16.Recovers (.ofNat word.toNat) word := by
  have bound := word.toNat_lt
  exact (integerIn_recovers "u16" ⟨by omega, by omega⟩).map word.ofNat_toNat

theorem word32_recovers (word : UInt32) : word32.Recovers (.ofNat word.toNat) word := by
  have bound := word.toNat_lt
  exact (integerIn_recovers "u32" ⟨by omega, by omega⟩).map word.ofNat_toNat

theorem signed64_recovers (time : Int64) : signed64.Recovers (.ofInt time.toInt) time := by
  have atLeast := time.le_toInt
  have below := time.toInt_lt
  exact (integerIn_recovers "i64" ⟨by omega, by omega⟩).map time.ofInt_toInt

theorem count_recovers
    {number : Nat}
    (bound : number < UInt64.size) :
    count.Recovers (.ofNat number) number := by
  unfold UInt64.size at bound
  exact (integerIn_recovers "usize" ⟨by omega, by omega⟩).map (Int.toNat_natCast number)

theorem lt_of_count
    {source : Source}
    {value : Value}
    {number : Nat}
    (read : count source value = .ok number) :
    number < UInt64.size := by
  unfold UInt64.size
  obtain ⟨found, readInteger, rfl⟩ := map_eq_ok_iff.mp read
  unfold integerIn at readInteger
  split at readInteger
  · split at readInteger
    · cases readInteger
      omega
    · nomatch readInteger
  · nomatch readInteger

/-- A value that may be null is recovered if it is null, or is recovered from a value that is not. -/
theorem nullable_recovers
    {decode : Decoder α}
    {encode : α → Value}
    {datum : Option α}
    (present : ∀ value ∈ datum, encode value ≠ .null)
    (recovers : ∀ value ∈ datum, decode.Recovers (encode value) value) :
    decode.nullable.Recovers (.ofOption encode datum) datum := by
  intro source other rearranged
  cases datum with
  | none =>
      cases rearranged
      rfl
  | some value =>
      have read := recovers value rfl source other rearranged
      unfold nullable
      split
      · exact absurd rfl (rearranged.ne_null (present value rfl))
      · rw [read]
        rfl

theorem items_recovers
    {decode : Decoder α}
    {encode : α → Value}
    {data : List α}
    (recovers : ∀ datum ∈ data, decode.Recovers (encode datum) datum)
    (source : Source)
    {others : List Value}
    (alike : List.Forall₂ Value.Rearranged (data.map encode) others) :
    items decode source others = .ok data := by
  induction data generalizing others with
  | nil =>
      cases alike
      rfl
  | cons datum later inductionHypothesis =>
      cases alike with
      | @cons _ found _ rest first alike =>
          obtain ⟨firstRecovers, laterRecover⟩ := List.forall_mem_cons.mp recovers
          rw [items, firstRecovers source found first]
          dsimp only
          rw [inductionHypothesis laterRecover alike]
          rfl

/-- A list is recovered if each of its items is. -/
theorem list_recovers
    {decode : Decoder α}
    {encode : α → Value}
    {data : List α}
    (recovers : ∀ datum ∈ data, decode.Recovers (encode datum) datum) :
    (list decode).Recovers (.array (data.map encode)) data := by
  intro source other rearranged
  obtain ⟨others, rfl, alike⟩ := rearranged.of_array
  exact items_recovers recovers source alike

/-- Each item of a list that is decoded to the list is decoded to that item. -/
theorem exists_decode_of_list
    {decode : Decoder α}
    {encode : α → Value}
    {data : List α}
    {source : Source}
    {other : Value}
    (rearranged : Value.Rearranged (.array (data.map encode)) other)
    (decoded : list decode source other = .ok data) :
    ∀ datum ∈ data, ∃ found, (encode datum).Rearranged found ∧
      decode source found = .ok datum := by
  obtain ⟨others, rfl, alike⟩ := rearranged.of_array
  rw [list] at decoded
  clear rearranged
  induction data generalizing others with
  | nil => exact List.forall_mem_nil _
  | cons datum later inductionHypothesis =>
      cases alike with
      | @cons _ found _ rest first alike =>
          rw [items] at decoded
          cases read : decode source found with
          | error error =>
              rw [read] at decoded
              nomatch decoded
          | ok item =>
              rw [read] at decoded
              obtain ⟨made, readRest, same⟩ := map_eq_ok_iff.mp decoded
              obtain ⟨rfl, rfl⟩ := List.cons.inj same
              exact List.forall_mem_cons.mpr
                ⟨⟨found, first, read⟩, inductionHypothesis rest alike readRest⟩

/-- A named choice is recovered from its name. -/
theorem choice_recovers
    {choices : List (String × α)}
    {name : String}
    {datum : α}
    (listed : choices.lookup name = some datum) :
    (choice choices).Recovers (.string name) datum := by
  intro source other rearranged
  cases rearranged
  rw [choice, named, listed]

end Decoder

/-! ## Records -/

/-- A field takes a datum from the members of an object, in whatever order they are listed. -/
def Field.Recovers {α : Type} (field : Field α) (members : List (String × Value)) (datum : α) :
    Prop :=
  ∀ source others, MembersRearranged members others → field.ofMembers source others = .ok datum

/-- The fields make a datum from the members of an object, in whatever order they are listed. -/
def Fields.Recovers {α : Type} (fields : Fields α) (members : List (String × Value)) (datum : α) :
    Prop :=
  ∀ source others, MembersRearranged members others → fields.ofMembers source others = .ok datum

/-- A field recovers a datum if its own member is the only one, and its decoder recovers the datum. -/
theorem Field.recovers_of_listed
    {α : Type}
    {field : Field α}
    {members : List (String × Value)}
    {name : String}
    {value : Value}
    {datum : α}
    (listed : (members.filter fun member => field.owns member.1) = [(name, value)])
    (recovers : field.decode.Recovers value datum) :
    field.Recovers members datum := by
  intro source others rearranged
  obtain ⟨other, found, alike⟩ := rearranged.find field.owns listed
  rw [ofMembers, found]
  exact mapError_eq_ok_iff.mpr (recovers source other alike)

namespace Fields

variable {α β : Type}

theorem recovers_build (make : α) (members : List (String × Value)) :
    (build make).Recovers members make :=
  fun _ _ _ => rfl

/-- One more field is recovered. -/
theorem Recovers.field
    {fields : Fields (α → β)}
    {members : List (String × Value)}
    {make : α → β}
    (earlier : fields.Recovers members make)
    {next : Field α}
    {name : String}
    {value : Value}
    {datum : α}
    (listed : (members.filter fun member => next.owns member.1) = [(name, value)])
    (recovers : next.decode.Recovers value datum) :
    (fields.field next).Recovers members (make datum) := by
  intro source others rearranged
  rw [Fields.field]
  dsimp only
  rw [earlier source others rearranged,
    Field.recovers_of_listed listed recovers source others rearranged]

/-- A record is recovered from the object of its members. -/
theorem Recovers.object
    {fields : Fields α}
    {members : List (String × Value)}
    {datum : α}
    (recovers : fields.Recovers members datum)
    (subject : String) :
    (fields.decode subject).Recovers (.object members) datum := by
  intro source other rearranged
  obtain ⟨others, rfl, alike⟩ := rearranged.of_object
  exact mapError_eq_ok_iff.mpr (recovers source others alike)

end Fields

/-! ## What a decoded record must satisfy -/

/-- What a field takes comes from its own member. -/
theorem Field.decode_of_ofMembers
    {α : Type}
    {field : Field α}
    {source : Source}
    {members others : List (String × Value)}
    (alike : MembersRearranged members others)
    {name : String}
    {value : Value}
    (listed : (members.filter fun member => field.owns member.1) = [(name, value)])
    {datum : α}
    (taken : field.ofMembers source others = .ok datum) :
    ∃ other, value.Rearranged other ∧ field.decode source other = .ok datum := by
  obtain ⟨other, found, sameContent⟩ := alike.find field.owns listed
  rw [ofMembers, found] at taken
  exact ⟨other, sameContent, mapError_eq_ok_iff.mp taken⟩

/-- What a field without a default takes was decoded. -/
theorem Field.decode_of_required
    {α : Type}
    {field : Field α}
    (noDefault : field.absent = none)
    {source : Source}
    {members : List (String × Value)}
    {datum : α}
    (taken : field.ofMembers source members = .ok datum) :
    ∃ value, field.decode source value = .ok datum := by
  unfold ofMembers at taken
  split at taken
  · rw [noDefault] at taken
    nomatch taken
  · next name value _ => exact ⟨value, mapError_eq_ok_iff.mp taken⟩
  · split at taken <;> nomatch taken

namespace Fields

variable
  {α β : Type}
  {source : Source}
  {members : List (String × Value)}

/-- Whatever the fields make of some members satisfies a condition. -/
def Ensures (fields : Fields α) (source : Source) (members : List (String × Value))
    (holds : α → Prop) : Prop :=
  ∀ datum, fields.ofMembers source members = .ok datum → holds datum

theorem ensures_build
    {make : α}
    {holds : α → Prop}
    (made : holds make) :
    (build make).Ensures source members holds := by
  rintro datum ⟨⟩
  exact made

/-- A field whose value satisfies a condition of its own. -/
theorem Ensures.field
    {fields : Fields (α → β)}
    {next : Field α}
    {given : α → Prop}
    {holds : β → Prop}
    (earlier : fields.Ensures source members fun make => ∀ value, given value → holds (make value))
    (own : ∀ value, next.ofMembers source members = .ok value → given value) :
    (fields.field next).Ensures source members holds := by
  intro datum made
  rw [Fields.field] at made
  dsimp only at made
  split at made
  · next make value readEarlier readOwn =>
    cases made
    exact earlier make readEarlier value (own value readOwn)
  all_goals nomatch made

/-- A field whose value does not matter. -/
theorem Ensures.anyField
    {fields : Fields (α → β)}
    {next : Field α}
    {holds : β → Prop}
    (earlier : fields.Ensures source members fun make => ∀ value, holds (make value)) :
    (fields.field next).Ensures source members holds :=
  Ensures.field (fun make made value (_ : True) => earlier make made value) fun _ _ => trivial

theorem Ensures.of_decode
    {fields : Fields α}
    {holds : α → Prop}
    (ensures : fields.Ensures source members holds)
    {subject : String}
    {datum : α}
    (decoded : fields.decode subject source (.object members) = .ok datum) :
    holds datum := by
  exact ensures datum (mapError_eq_ok_iff.mp decoded)

end Fields

/-! ## Tagged data -/

namespace Decoder

variable {α : Type}

/-- A variant without fields is recovered from an object without members. -/
theorem bare_recovers (datum : α) : (bare datum).Recovers (.object []) datum := by
  intro source other rearranged
  obtain ⟨others, rfl, -⟩ := rearranged.of_object
  rfl

theorem lookup_of_filter
    {others : List (String × Value)}
    {tag : String}
    {value : Value}
    (only : (others.filter fun member => decide (member.1 = tag)) = [(tag, value)]) :
    others.lookup tag = some value := by
  induction others with
  | nil => nomatch only
  | cons member later inductionHypothesis =>
      obtain ⟨name, held⟩ := member
      by_cases same : name = tag
      · subst same
        rw [List.filter_cons_of_pos (by simp)] at only
        rw [List.lookup_cons, beq_self_eq_true]
        exact congrArg some (Prod.mk.inj (List.cons.inj only).1).2
      · rw [List.filter_cons_of_neg (by simpa using same)] at only
        rw [List.lookup_cons, beq_eq_false_iff_ne.mpr (Ne.symm same)]
        exact inductionHypothesis only

/-- A tagged datum is recovered if the variant that the tag names recovers it from the other
members. -/
theorem variants_recovers
    {type tag name : String}
    {choices : List (String × Decoder α)}
    {decode : Decoder α}
    {members : List (String × Value)}
    {datum : α}
    (listed : choices.lookup name = some decode)
    (untagged : ∀ member ∈ members, member.1 ≠ tag)
    (recovers : decode.Recovers (.object members) datum) :
    (variants type tag choices).Recovers (.object ((tag, .string name) :: members)) datum := by
  intro source other rearranged
  obtain ⟨others, rfl, alike⟩ := rearranged.of_object
  have noOther : (members.filter fun member => decide (member.1 = tag)) = [] :=
    List.filter_eq_nil_iff.mpr fun member among => by simpa using untagged member among
  have theRest : (members.filter fun member => decide (member.1 ≠ tag)) = members :=
    List.filter_eq_self.mpr fun member among => by simpa using untagged member among
  have onlyTag : (((tag, Value.string name) :: members).filter fun member =>
      decide (member.1 = tag)) = [(tag, .string name)] := by
    rw [List.filter_cons_of_pos (by simp), noOther]
  obtain ⟨found, only, sameTag⟩ := alike.find (fun name => decide (name = tag)) onlyTag
  have rest := alike.filter fun name => decide (name ≠ tag)
  rw [List.filter_cons_of_neg (by simp), theRest] at rest
  cases sameTag
  unfold variants
  dsimp only
  rw [lookup_of_filter only]
  dsimp only
  rw [tagged, named, listed]
  dsimp only
  exact recovers .setAside _ (Value.rearranged_object rest)

end Decoder
end Json
end CatalogIngest
