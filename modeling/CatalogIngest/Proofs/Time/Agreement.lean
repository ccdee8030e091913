import CatalogIngest.Proofs.Time.Layout
import Mathlib.Data.List.DropRight

/-!
# Agreement of the two ways to read a timestamp

A timestamp without an offset stands for the same moment as with any number of letters Z behind it,
whichever layout reads the longer text. A signed offset in place of a Z moves the moment by as much.
And every timestamp is its whole seconds and its exact fraction, in milliseconds rounded down, also
before 1970.
-/

namespace CatalogIngest
namespace Time

open Number (isDigit)

open Reader Layout

/-! ## Letters Z at the end -/

/-- A row of letters Z. -/
def lettersZ (count : Nat) : List Char :=
  List.replicate count 'Z'

theorem endsFraction_lettersZ (count : Nat) : EndsFraction (lettersZ count) := by
  cases count with
  | zero => exact fun _ none => nomatch none
  | succ count =>
      rintro _ ⟨⟩
      decide

/-- A text is what is left of it and some letters Z. -/
theorem exists_dropTrailingZ (text : List Char) :
    ∃ count, text = dropTrailingZ text ++ lettersZ count := by
  have same : text.rtakeWhile (· = 'Z') = lettersZ (text.rtakeWhile (· = 'Z')).length := by
    refine List.eq_replicate_iff.mpr ⟨rfl, fun character member => ?_⟩
    simpa using List.mem_rtakeWhile_imp member
  refine ⟨(text.rtakeWhile (· = 'Z')).length, ?_⟩
  rw [← same]
  exact List.rdropWhile_append_rtakeWhile.symm

theorem dropTrailingZ_append_lettersZ
    {text : List Char}
    (unended : 'Z' ∉ text)
    (count : Nat) :
    dropTrailingZ (text ++ lettersZ count) = text := by
  change (text ++ lettersZ count).rdropWhile (· = 'Z') = text
  induction count with
  | zero =>
      rw [lettersZ, List.replicate_zero, List.append_nil, List.rdropWhile_eq_self_iff]
      intro nonempty last
      rw [decide_eq_true_eq] at last
      exact unended (last ▸ List.getLast_mem nonempty)
  | succ count inductionHypothesis =>
      rw [lettersZ, List.replicate_succ', ← List.append_assoc]
      exact (List.rdropWhile_concat_pos (fun character => decide (character = 'Z')) _ 'Z'
        (decide_eq_true rfl)).trans inductionHypothesis

/-- One letter Z is an offset of nothing, and no other number of them is an offset. -/
theorem offset_lettersZ
    {β : Type}
    (count : Nat)
    (next : Int → Option β) :
    ((offset (lettersZ count)).bind fun found =>
      if found.2.isEmpty then next found.1 else none) = if count = 1 then next 0 else none := by
  match count with
  | 0 => rfl
  | 1 => rfl
  | count + 2 => rfl

theorem Z_not_mem_pointed
    {digits : List Char}
    (digital : ∀ character ∈ digits, isDigit character = true) :
    'Z' ∉ pointed digits := by
  cases digits with
  | nil => exact List.not_mem_nil
  | cons first later =>
      intro member
      rcases List.mem_cons.mp member with same | inside
      · exact absurd same (by decide)
      · exact absurd rfl (unpointed_of_digits digital 'Z' inside).2

/-! ## Texts without an offset -/

/-- The layout without an offset reads nothing behind the fraction. -/
theorem Layout.Parts.plain_offset
    {text : List Char}
    {millis : Int}
    (parts : plain.Parts text millis) :
    parts.minutes = 0 ∧ parts.ending = [] := by
  have found := Option.some.inj parts.offset
  exact ⟨(congrArg Prod.fst found).symm, congrArg Prod.snd found⟩

theorem Layout.Parts.plain_text
    {text : List Char}
    {millis : Int}
    (parts : plain.Parts text millis) :
    text = parts.front ++ pointed parts.digits := by
  have whole := parts.text_eq
  rwa [parts.plain_offset.2, List.append_nil] at whole

/-- The strict layout reads the same moment from a text with letters Z behind it, or it gives up. -/
theorem Layout.Parts.internet_read?_append_lettersZ
    {text : List Char}
    {millis : Int}
    (parts : plain.Parts text millis)
    (count : Nat) :
    internet.read? (text ++ lettersZ count) = none ∨
      internet.read? (text ++ lettersZ count) = some millis := by
  have ends := endsFraction_lettersZ count
  have loose := parts.whole _ (endsDigits_pointed_append parts.digits ends)
  rw [← List.append_assoc, ← parts.plain_text] at loose
  cases whole : internet.whole? (text ++ lettersZ count) with
  | none =>
      left
      rw [Layout.read?, whole]
      rfl
  | some reached =>
      cases agrees_whole? whole loose
      have value := parts.millis_eq.symm
      rw [parts.plain_offset.1] at value
      have letters := offset_lettersZ count fun minutes =>
        some (1000 * parts.time.seconds + ⌊1000 * decimalPart parts.digits⌋ - minutes * 60000)
      rw [value] at letters
      rw [read?_of_whole? whole parts.digital ends]
      simp only [parts.valid, and_true]
      exact (ite_eq_or_eq _ _ _).symm.imp letters.trans letters.trans

/-- A text without an offset stands for the same moment with letters Z behind it. -/
theorem readMillis?_append_lettersZ
    {text : List Char}
    {millis : Int}
    (found : readLocal? text = some millis)
    (count : Nat) :
    readMillis? (String.ofList (text ++ lettersZ count)) = some millis := by
  have read := found
  rw [readLocal?_eq] at read
  obtain ⟨parts⟩ := regular_plain.nonempty_parts read
  have unended : 'Z' ∉ text := by
    rw [parts.plain_text, List.mem_append, not_or]
    exact ⟨fun member => (parts.unpointed 'Z' member).2 rfl, Z_not_mem_pointed parts.digital⟩
  rw [readMillis?, readInternet?_eq, String.toList_ofList]
  -- Where the strict layout gives up, the letters are dropped and the loose one reads the rest.
  rcases parts.internet_read?_append_lettersZ count with unread | strict
  · rw [unread]
    dsimp only
    rw [dropTrailingZ_append_lettersZ unended, found]
  · rw [strict]

/-! ## Texts with an offset -/

theorem readMillis?_of_readInternet?
    {text : String}
    {millis : Int}
    (found : readInternet? text = some millis) :
    readMillis? text = some millis := by
  rw [readMillis?, found]

/-- Before a letter Z at the end there are the whole seconds and the fraction. -/
theorem Layout.Parts.internet_offset
    {text : List Char}
    {millis : Int}
    (parts : internet.Parts (text ++ ['Z']) millis) :
    parts.minutes = 0 ∧ text = parts.front ++ pointed parts.digits := by
  have found : Time.offset parts.ending = some (parts.minutes, []) := parts.offset
  have text_eq := parts.text_eq
  rcases List.eq_nil_or_concat parts.ending with ended | ⟨before, last, written⟩
  · rw [ended] at found
    nomatch found
  · rw [List.concat_eq_append] at written
    rw [written, ← List.append_assoc, ← List.append_assoc] at text_eq
    obtain ⟨same, ⟨⟩⟩ := List.append_inj' text_eq rfl
    rw [written] at found
    obtain ⟨rfl, noMinutes⟩ := offset_concat_Z found
    exact ⟨noMinutes, same.trans (List.append_nil _)⟩

/-- An offset in place of a letter Z moves the moment back by as much. -/
theorem readInternet?_append_offsetText
    {text : String}
    {millis : Int}
    (found : readInternet? (text ++ "Z") = some millis)
    {sign : Char}
    {factor : Int}
    (signed : signFactor? sign = some factor)
    {hours minutes : Nat}
    (hoursSmall : hours < 24)
    (minutesSmall : minutes < 60) :
    readInternet? (text ++ offsetText sign hours minutes) =
      some (millis - factor * ((hours : Int) * 60 + minutes) * 60000) := by
  rw [readInternet?_eq, String.toList_append] at found
  obtain ⟨parts⟩ := regular_internet.nonempty_parts found
  obtain ⟨noMinutes, text_eq⟩ := parts.internet_offset
  have offset : internet.offset (offsetText sign hours minutes).toList =
      some (factor * ((hours : Int) * 60 + minutes), []) :=
    offset_offsetText signed hoursSmall minutesSmall
  have moved := parts.read?_eq parts.digital (endsFraction_of_offset offset) offset
  have value := parts.millis_eq
  rw [noMinutes, Int.zero_mul, Int.sub_zero] at value
  rw [readInternet?_eq, String.toList_append, text_eq, List.append_assoc, moved, ← value]

/-! ## Milliseconds of a fraction -/

/-- Without its fraction, a text that a layout reads stands for whole seconds. -/
theorem Layout.Parts.exists_seconds
    {layout : Layout}
    {text : List Char}
    {millis : Int}
    (parts : layout.Parts text millis) :
    ∃ seconds : Int,
      layout.read? (parts.front ++ parts.ending) = some (1000 * seconds) ∧
        millis = ⌊1000 * ((seconds : ℚ) + decimalPart parts.digits)⌋ := by
  refine ⟨parts.time.seconds - parts.minutes * 60, ?_, ?_⟩
  · have whole := parts.read?_eq (List.forall_mem_nil _) parts.ends parts.offset
    rw [pointed, List.nil_append, decimalPart, mul_zero, Int.floor_zero] at whole
    rw [whole, Option.some.injEq]
    ring
  · have split : 1000 * (((parts.time.seconds - parts.minutes * 60 : Int) : ℚ) +
        decimalPart parts.digits) =
        ((1000 * (parts.time.seconds - parts.minutes * 60) : Int) : ℚ) +
          1000 * decimalPart parts.digits := by
      push_cast
      ring
    rw [split, Int.floor_intCast_add]
    refine parts.millis_eq.trans ?_
    ring

/-- A timestamp stands for its whole seconds and its fraction, rounded down. -/
theorem exists_fraction_of_readMillis?
    {text : String}
    {millis : Int}
    (found : readMillis? text = some millis) :
    ∃ (front digits ending : List Char) (seconds : Int),
      text.toList = front ++ pointed digits ++ ending ∧ '.' ∉ front ++ ending ∧
        (∀ character ∈ digits, isDigit character = true) ∧
          readMillis? (String.ofList (front ++ ending)) = some (1000 * seconds) ∧
            millis = ⌊1000 * ((seconds : ℚ) + decimalPart digits)⌋ := by
  rw [readMillis?] at found
  cases strict : readInternet? text with
  | some reached =>
      rw [strict] at found
      cases found
      rw [readInternet?_eq] at strict
      obtain ⟨parts⟩ := regular_internet.nonempty_parts strict
      obtain ⟨seconds, whole, floor⟩ := parts.exists_seconds
      refine ⟨parts.front, parts.digits, parts.ending, seconds, ?_, ?_, parts.digital, ?_, floor⟩
      · rw [List.append_assoc]
        exact parts.text_eq
      · rw [List.mem_append, not_or]
        exact ⟨fun member => (parts.unpointed '.' member).1 rfl,
          point_not_mem_of_offset parts.offset⟩
      · apply readMillis?_of_readInternet?
        rwa [readInternet?_eq, String.toList_ofList]
  | none =>
      rw [strict] at found
      obtain ⟨count, text_eq⟩ := exists_dropTrailingZ text.toList
      rw [readLocal?_eq] at found
      obtain ⟨parts⟩ := regular_plain.nonempty_parts found
      obtain ⟨seconds, whole, floor⟩ := parts.exists_seconds
      rw [parts.plain_offset.2, List.append_nil, ← readLocal?_eq] at whole
      refine ⟨parts.front, parts.digits, lettersZ count, seconds, ?_, ?_, parts.digital, ?_, floor⟩
      · rw [← parts.plain_text]
        exact text_eq
      · rw [List.mem_append, not_or]
        refine ⟨fun member => (parts.unpointed '.' member).1 rfl, fun member => ?_⟩
        exact absurd (List.eq_of_mem_replicate member) (by decide)
      · exact readMillis?_append_lettersZ whole count

/-- A text without an offset stands for the same moment with any number of letters Z behind it. An
offset in place of a Z moves the moment back by as much. Milliseconds are rounded down. -/
theorem timestamp_layouts_agree :
    (∀ text millis, readLocal? text = some millis →
      ∀ count, readMillis? (String.ofList (text ++ lettersZ count)) = some millis) ∧
    (∀ text millis, readInternet? (text ++ "Z") = some millis →
      readMillis? (text ++ "Z") = some millis ∧
        ∀ sign factor hours minutes, signFactor? sign = some factor → hours < 24 → minutes < 60 →
          readMillis? (text ++ offsetText sign hours minutes) =
            some (millis - factor * ((hours : Int) * 60 + minutes) * 60000)) ∧
    (∀ text millis, readMillis? text = some millis →
      ∃ (front digits ending : List Char) (seconds : Int),
        text.toList = front ++ pointed digits ++ ending ∧ '.' ∉ front ++ ending ∧
          (∀ character ∈ digits, isDigit character = true) ∧
            readMillis? (String.ofList (front ++ ending)) = some (1000 * seconds) ∧
              millis = ⌊1000 * ((seconds : ℚ) + decimalPart digits)⌋) := by
  refine ⟨fun _ _ => readMillis?_append_lettersZ, fun text millis found => ?_,
    fun _ _ => exists_fraction_of_readMillis?⟩
  refine ⟨readMillis?_of_readInternet? found, fun sign factor hours minutes signed => ?_⟩
  intro hoursSmall minutesSmall
  exact readMillis?_of_readInternet?
    (readInternet?_append_offsetText found signed hoursSmall minutesSmall)

theorem timestamp_layouts_agree_before_1970 :
    (readLocal? " -1969- 1- 2T 3: 4:60.99999999999".toList = some (-124302718499001) ∧
      readMillis? (String.ofList (" -1969- 1- 2T 3: 4:60.99999999999".toList ++ lettersZ 2)) =
        some (-124302718499001)) ∧
    (readInternet? ("1969-12-31t23:59:58.0015" ++ "Z") = some (-1999) ∧
      readMillis? ("1969-12-31t23:59:58.0015" ++ offsetText '−' 5 30) =
        some (-1999 - -1 * (((5 : Nat) : Int) * 60 + (30 : Nat)) * 60000)) ∧
    (readMillis? "1969-12-31t23:59:58.0015-05:30" = some 19798001 ∧
      ∃ (front digits ending : List Char) (seconds : Int),
        "1969-12-31t23:59:58.0015-05:30".toList = front ++ pointed digits ++ ending ∧
          '.' ∉ front ++ ending ∧ (∀ character ∈ digits, isDigit character = true) ∧
            readMillis? (String.ofList (front ++ ending)) = some (1000 * seconds) ∧
              19798001 = ⌊1000 * ((seconds : ℚ) + decimalPart digits)⌋) := by
  have loose : readLocal? " -1969- 1- 2T 3: 4:60.99999999999".toList = some (-124302718499001) := by
    decide +kernel
  have strict : readInternet? ("1969-12-31t23:59:58.0015" ++ "Z") = some (-1999) := by
    decide +kernel
  have moved : readMillis? "1969-12-31t23:59:58.0015-05:30" = some 19798001 := by decide +kernel
  have signed : signFactor? '−' = some (-1) := by decide
  have shifted := (timestamp_layouts_agree.2.1 _ _ strict).2 '−' (-1) 5 30 signed
  exact ⟨⟨loose, timestamp_layouts_agree.1 _ _ loose 2⟩,
    ⟨strict, shifted (by decide) (by decide)⟩, moved, timestamp_layouts_agree.2.2 _ _ moved⟩

end Time
end CatalogIngest
