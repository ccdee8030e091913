import CatalogIngest.Proofs.Time.Components

/-!
# Layouts of timestamps

A timestamp has a date and a time of day, a fraction and an offset. The layout with an offset reads
the parts strictly and the layout without one loosely; otherwise they are the same. Where both read
the front of a text, they read the same time there. A timestamp with a fraction is as many
milliseconds as the one without it, and those of the exact fraction, rounded down.
-/

namespace CatalogIngest
namespace Time

open Number (isDigit)

open Reader

/-- The whole seconds of a time from the start of 1970. -/
def CivilTime.seconds (time : CivilTime) : Int :=
  ((daysFromEpoch time.year time.month time.day * 24 + time.hour) * 60 + time.minute) * 60 +
    time.second

/-- How the parts of a timestamp are read. -/
structure Layout where
  year : Reader Int
  number : Reader Nat
  separator : List Char → Option (List Char)
  offset : Reader Int

namespace Layout

/-- The strict layout, with an offset. -/
def internet : Layout where
  year := do
    let year ← (fixedNumber 4 : Reader Nat)
    pure (year : Int)
  number := fixedNumber 2
  separator := dateSeparator
  offset := Time.offset

/-- The loose layout, without an offset. -/
def plain : Layout where
  year := looseYear
  number := looseNumber
  separator := expect 'T'
  offset := pure 0

/-- Read the time up to its last whole second. -/
def whole? (layout : Layout) : Reader CivilTime := do
  let year ← upTo (expect '-') layout.year
  let month ← upTo (expect '-') layout.number
  let day ← upTo layout.separator layout.number
  let hour ← upTo (expect ':') layout.number
  let minute ← upTo (expect ':') layout.number
  let second ← layout.number
  pure ⟨year, month, day, hour, minute, second, 0⟩

/-- The milliseconds of a timestamp in a layout. -/
def read? (layout : Layout) (text : List Char) : Option Int :=
  (layout.whole? text).bind fun whole =>
    (fraction whole.2).bind fun fraction =>
      (layout.offset fraction.2).bind fun offset =>
        let time := { whole.1 with nanosecond := fraction.1 }
        if offset.2.isEmpty ∧ time.isValid then some (time.millis - offset.1 * 60000) else none

/-- Reading a time goes from part to part and on to what follows. -/
theorem whole?_bind
    {β : Type}
    (layout : Layout)
    (text : List Char)
    (next : CivilTime × List Char → Option β) :
    (layout.whole? text).bind next =
      (layout.year text).bind fun year => (expect '-' year.2).bind fun text =>
      (layout.number text).bind fun month => (expect '-' month.2).bind fun text =>
      (layout.number text).bind fun day => (layout.separator day.2).bind fun text =>
      (layout.number text).bind fun hour => (expect ':' hour.2).bind fun text =>
      (layout.number text).bind fun minute => (expect ':' minute.2).bind fun text =>
      (layout.number text).bind fun second =>
        next (⟨year.1, month.1, day.1, hour.1, minute.1, second.1, 0⟩, second.2) := by
  simp only [whole?, bind_apply, pure_apply, upTo_bind, Option.bind_assoc, Option.bind_some]

theorem internet_year_bind
    {β : Type}
    (text : List Char)
    (next : Int × List Char → Option β) :
    (internet.year text).bind next =
      (fixedNumber 4 text).bind fun year => next ((year.1 : Int), year.2) := by
  change ((fixedNumber 4 text).bind fun year => some ((year.1 : Int), year.2)).bind next = _
  rw [Option.bind_assoc]
  rfl

/-- A timestamp with an offset is read in the strict layout. -/
theorem readInternet?_eq (text : String) : readInternet? text = internet.read? text.toList := by
  rw [read?, whole?_bind, internet_year_bind]
  rfl

/-- A timestamp without an offset is read in the loose layout. -/
theorem readLocal?_eq (text : List Char) : readLocal? text = plain.read? text := by
  simp only [read?, whole?_bind, plain, pure_apply, Option.bind_some, Int.zero_mul, Int.sub_zero]
  rfl

/-! ## The front of a timestamp -/

/-- What the parts of a layout have in common. -/
structure Regular (layout : Layout) : Prop where
  year : TakesFront EndsDigits layout.year
  number : TakesFront EndsDigits layout.number
  separator : IsMark layout.separator
  offset : ∀ {text minutes}, layout.offset text = some (minutes, []) → EndsFraction text

theorem Regular.takesFront_whole?
    {layout : Layout}
    (regular : layout.Regular) :
    TakesFront EndsDigits layout.whole? :=
  (regular.year.upTo isMark_dash).bind fun _ =>
    (regular.number.upTo isMark_dash).bind fun _ =>
      (regular.number.upTo regular.separator).bind fun _ =>
        (regular.number.upTo isMark_colon).bind fun _ =>
          (regular.number.upTo isMark_colon).bind fun _ => regular.number.bind_pure _

theorem regular_internet : internet.Regular where
  year := (takesFront_fixedNumber 4).bind_pure _
  number := takesFront_fixedNumber 2
  separator := isMark_dateSeparator
  offset := endsFraction_of_offset

theorem regular_plain : plain.Regular where
  year := takesFront_looseYear
  number := takesFront_looseNumber
  separator := isMark_expect (by decide) (by decide)
  offset := by
    rintro _ _ ⟨⟩ _ ⟨⟩

theorem agrees_year : Agrees internet.year plain.year := by
  rintro text ⟨year, rest⟩ other found otherFound
  obtain ⟨value, between, fixed, ⟨⟩⟩ := bind_eq_some_iff.mp found
  have short := shortNumber_of_fixedNumber (by decide) fixed
  obtain ⟨first, later, rfl, digital, -⟩ := exists_of_shortNumber short
  have loose : looseYear (first :: later ++ rest) = some ((value : Int), rest) := by
    rw [looseYear_eq, trimStart_of_shortNumber short, List.cons_append,
      signedYear_of_isDigit (digital first List.mem_cons_self), ← List.cons_append, short]
    rfl
  exact Option.some.inj (loose.symm.trans otherFound)

/-- Where both layouts read a text up to the last whole second, they read the same time there. -/
theorem agrees_whole? : Agrees internet.whole? plain.whole? := by
  have number : Agrees internet.number plain.number := by
    rintro text ⟨value, rest⟩ other found otherFound
    have short := shortNumber_of_fixedNumber (by decide) found
    have loose : looseNumber text = some (value, rest) := by
      rw [looseNumber, trimStart_of_shortNumber short, short]
    exact Option.some.inj (loose.symm.trans otherFound)
  exact (agrees_year.upTo isMark_dash isMark_dash).bind fun _ =>
    (number.upTo isMark_dash isMark_dash).bind fun _ =>
      (number.upTo isMark_dateSeparator regular_plain.separator).bind fun _ =>
        (number.upTo isMark_colon isMark_colon).bind fun _ =>
          (number.upTo isMark_colon isMark_colon).bind fun _ => number.bind fun _ => .refl _

/-! ## Whole seconds and fractions -/

/-- The parts of a text that a layout reads: the front up to the last whole second, the digits of the
fraction and the offset. -/
structure Parts (layout : Layout) (text : List Char) (millis : Int) where
  front : List Char
  digits : List Char
  ending : List Char
  time : CivilTime
  minutes : Int
  text_eq : text = front ++ (pointed digits ++ ending)
  unpointed : Unpointed front
  whole : ∀ tail, EndsDigits tail → layout.whole? (front ++ tail) = some (time, tail)
  digital : ∀ character ∈ digits, isDigit character = true
  ends : EndsFraction ending
  offset : layout.offset ending = some (minutes, [])
  valid : time.isValid = true
  millis_eq : millis = 1000 * time.seconds + ⌊1000 * decimalPart digits⌋ - minutes * 60000

/-- Behind the whole seconds of a text there are a fraction and an offset. -/
theorem read?_of_whole?
    {layout : Layout}
    {text digits ending : List Char}
    {time : CivilTime}
    (whole : layout.whole? text = some (time, pointed digits ++ ending))
    (digital : ∀ character ∈ digits, isDigit character = true)
    (ends : EndsFraction ending) :
    layout.read? text = (layout.offset ending).bind fun offset =>
      if offset.2.isEmpty ∧ time.isValid then
        some (1000 * time.seconds + ⌊1000 * decimalPart digits⌋ - offset.1 * 60000)
      else none := by
  obtain ⟨nanosecond, found, floor⟩ := exists_fraction_pointed digital ends
  have millis : ({ time with nanosecond := nanosecond } : CivilTime).millis =
      1000 * time.seconds + ⌊1000 * decimalPart digits⌋ := by
    rw [← floor, mul_comm]
    rfl
  rw [read?, whole, Option.bind_some, found, Option.bind_some]
  simp only [millis]
  rfl

/-- A text that a layout reads has the parts of one. -/
theorem Regular.nonempty_parts
    {layout : Layout}
    (regular : layout.Regular)
    {text : List Char}
    {millis : Int}
    (found : layout.read? text = some millis) :
    Nonempty (layout.Parts text millis) := by
  obtain ⟨⟨time, behind⟩, foundWhole, inner⟩ := Option.bind_eq_some_iff.mp found
  obtain ⟨⟨nanosecond, ending⟩, foundFraction, inner⟩ := Option.bind_eq_some_iff.mp inner
  obtain ⟨⟨minutes, rest⟩, foundOffset, inner⟩ := Option.bind_eq_some_iff.mp inner
  obtain ⟨⟨atEnd, valid⟩, -⟩ := Option.ite_none_right_eq_some.mp inner
  cases List.isEmpty_iff.mp atEnd
  obtain ⟨front, rfl, unpointed, reads⟩ := regular.takesFront_whole? foundWhole
  obtain ⟨digits, rfl, digital⟩ := exists_of_fraction foundFraction
  have ends := regular.offset foundOffset
  have wholly : ([] : List Char).isEmpty = true ∧ time.isValid = true := ⟨rfl, valid⟩
  rw [read?_of_whole? foundWhole digital ends, foundOffset, Option.bind_some, if_pos wholly]
    at found
  exact ⟨{
    front
    digits
    ending
    time
    minutes
    text_eq := rfl
    unpointed
    whole := reads
    digital
    ends
    offset := foundOffset
    valid
    millis_eq := (Option.some.inj found).symm }⟩

/-- With another fraction and another offset, the front of a text stands for the same seconds. -/
theorem Parts.read?_eq
    {layout : Layout}
    {text : List Char}
    {millis : Int}
    (parts : layout.Parts text millis)
    {digits ending : List Char}
    {minutes : Int}
    (digital : ∀ character ∈ digits, isDigit character = true)
    (ends : EndsFraction ending)
    (offset : layout.offset ending = some (minutes, [])) :
    layout.read? (parts.front ++ (pointed digits ++ ending)) =
      some (1000 * parts.time.seconds + ⌊1000 * decimalPart digits⌋ - minutes * 60000) := by
  have whole := parts.whole _ (endsDigits_pointed_append digits ends)
  have wholly : ([] : List Char).isEmpty = true ∧ parts.time.isValid = true := ⟨rfl, parts.valid⟩
  rw [read?_of_whole? whole digital ends, offset, Option.bind_some, if_pos wholly]

end Layout
end Time
end CatalogIngest
