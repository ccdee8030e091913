import CatalogIngest.Proofs.Text.Trimming
import CatalogIngest.Text.Casing

/-!
# Laws of lower case

A character that lower-casing replaces becomes characters that stay as they are, so lower-casing twice
is lower-casing once. Blanks stay where they are and nothing else becomes one, so trimming and
lower-casing may be done in either order. What comes before a neutral character, such as a bracket or
a comma, does not affect what comes after it, so a text may be lower-cased in pieces.
-/

namespace CatalogIngest
namespace Text

/-! ## The table of mappings -/

namespace CaseRun

/-- A run maps a code point. -/
def Maps (run : CaseRun) (code : Nat) : Prop :=
  run.first ≤ code ∧ code ≤ run.last ∧ (code - run.first) % run.step = 0

/-- The least code point that a run maps to. -/
def imageFirst (run : CaseRun) : Nat :=
  (run.first + run.distance).toNat

/-- The greatest code point that a run maps to. -/
def imageLast (run : CaseRun) : Nat :=
  (run.last + run.distance).toNat

/-- No code point that a run maps to is mapped by one of some runs in increasing order: it lies outside
them, or a run of every second code point passes over it. -/
def clears (run : CaseRun) : List CaseRun → Bool
  | [] => true
  | other :: later =>
      run.imageLast < other.first ||
        (other.last < run.imageFirst ||
            other.step = 2 && (run.step = 2 || run.first = run.last) &&
              (run.imageFirst + other.first) % 2 = 1) &&
          run.clears later

end CaseRun

/-- A code point is left alone, or one of the runs maps it. -/
theorem lowerDistance_cases
    (runs : List CaseRun)
    (code : Nat) :
    lowerDistance runs code = 0 ∨
      ∃ run ∈ runs, run.Maps code ∧ lowerDistance runs code = run.distance := by
  induction runs with
  | nil => exact .inl rfl
  | cons run later inductionHypothesis =>
      have rest : lowerDistance later code = 0 ∨
          ∃ other ∈ run :: later, other.Maps code ∧ lowerDistance later code = other.distance :=
        inductionHypothesis.imp_right fun ⟨other, member, found⟩ =>
          ⟨other, List.mem_cons_of_mem _ member, found⟩
      rw [lowerDistance]
      split
      · exact .inl rfl
      · next reached =>
          split
          · next within =>
              split
              · next onStep =>
                  exact .inr ⟨run, List.mem_cons_self,
                    ⟨Nat.le_of_not_lt reached, within, onStep⟩, rfl⟩
              · exact rest
          · exact rest

/-- What a run maps to is left alone by the runs that it clears. -/
theorem CaseRun.lowerDistance_image
    {run : CaseRun}
    {runs : List CaseRun}
    (clear : run.clears runs = true)
    (positive : 0 < run.imageFirst)
    {code : Nat}
    (maps : run.Maps code) :
    lowerDistance runs (code + run.distance).toNat = 0 := by
  obtain ⟨above, below, onStep⟩ := maps
  have imageAbove : run.imageFirst ≤ (code + run.distance).toNat := by
    unfold imageFirst
    omega
  have imageBelow : (code + run.distance).toNat ≤ run.imageLast := by
    unfold imageLast
    omega
  have sameParity : run.step = 2 ∨ run.first = run.last →
      (code + run.distance).toNat % 2 = run.imageFirst % 2 := by
    unfold imageFirst at positive ⊢
    rintro (two | single)
    · rw [two] at onStep
      omega
    · omega
  induction runs with
  | nil => rfl
  | cons other later inductionHypothesis =>
      rw [lowerDistance]
      simp only [clears, Bool.or_eq_true, Bool.and_eq_true, decide_eq_true_eq] at clear
      split
      · rfl
      · next reached =>
          obtain ⟨apart, clearsLater⟩ := clear.resolve_left (by omega)
          split
          · next within =>
              split
              · next hit =>
                  obtain ⟨⟨two, regular⟩, odd⟩ := apart.resolve_left (by omega)
                  have parity := sameParity regular
                  rw [two] at hit
                  omega
              · exact inductionHypothesis clearsLater
          · exact inductionHypothesis clearsLater

/-- What the runs map to are characters beyond the capitals of ASCII, none of them blank or the dotted
capital I, and none that is mapped further. -/
theorem images_of_lowerRuns :
    ∀ run ∈ lowerRuns,
      97 ≤ run.imageFirst ∧
        (run.imageLast < 0xD800 ∨ 0xE000 ≤ run.imageFirst ∧ run.imageLast < 0x110000) ∧
          (run.imageLast < 'İ'.toNat ∨ 'İ'.toNat < run.imageFirst) ∧
            (∀ range ∈ blankRanges, run.imageLast < range.first ∨ range.last < run.imageFirst) ∧
              run.clears lowerRuns = true := by
  decide +kernel

/-- Blanks are not mapped, not cased and not ignored between cased characters. -/
theorem table_of_blank
    {code : Nat}
    (blank : CodeRange.covers blankRanges code = true) :
    lowerDistance lowerRuns code = 0 ∧ CodeRange.covers casedRanges code = false ∧
      CodeRange.covers caseIgnorableRanges code = false := by
  have each : ∀ range ∈ blankRanges,
      ∀ code ∈ List.range' range.first (range.last + 1 - range.first),
        lowerDistance lowerRuns code = 0 ∧ CodeRange.covers casedRanges code = false ∧
          CodeRange.covers caseIgnorableRanges code = false := by
    decide +kernel
  exact CodeRange.forall_of_covers each blank

/-! ## Single characters -/

/-- A character that lower-casing leaves as it is, wherever it stands. -/
def isSettled (character : Char) : Bool :=
  character ≠ 'İ' && lowerChar character = character

theorem toNat_ofNat
    {code : Nat}
    (valid : code < 0xD800 ∨ 0xE000 ≤ code ∧ code < 0x110000) :
    (Char.ofNat code).toNat = code := by
  have isValid : code.isValidChar := valid.imp id fun ⟨above, below⟩ => ⟨by omega, below⟩
  rw [Char.ofNat, dif_pos isValid]
  rfl

/-- What holds of every code point that the table maps to. -/
structure IsImage (code : Nat) : Prop where
  beyondCapitals : 97 ≤ code
  valid : code < 0xD800 ∨ 0xE000 ≤ code ∧ code < 0x110000
  notDotted : code ≠ 'İ'.toNat
  notBlank : CodeRange.covers blankRanges code = false
  unmapped : lowerDistance lowerRuns code = 0

theorem isImage_of_maps
    {run : CaseRun}
    (member : run ∈ lowerRuns)
    {code : Nat}
    (maps : run.Maps code) :
    IsImage (code + run.distance).toNat := by
  obtain ⟨beyond, valid, notDotted, notBlank, clear⟩ := images_of_lowerRuns run member
  have unmapped := CaseRun.lowerDistance_image clear (by omega) maps
  obtain ⟨above, below, -⟩ := maps
  generalize reached : (code + run.distance).toNat = image at unmapped ⊢
  have imageAbove : run.imageFirst ≤ image := by
    unfold CaseRun.imageFirst
    omega
  have imageBelow : image ≤ run.imageLast := by
    unfold CaseRun.imageLast
    omega
  refine ⟨by omega, by omega, by omega, ?_, unmapped⟩
  by_contra blank
  rw [Bool.not_eq_false] at blank
  obtain ⟨range, among, inside⟩ := CodeRange.exists_of_covers blank
  have outside := notBlank range among
  omega

namespace IsImage

variable {code : Nat}

theorem toNat_eq (image : IsImage code) : (Char.ofNat code).toNat = code :=
  toNat_ofNat image.valid

theorem isBlank_eq (image : IsImage code) : isBlank (Char.ofNat code) = false := by
  rw [isBlank, image.toNat_eq, image.notBlank]

theorem isSettled_eq (image : IsImage code) : isSettled (Char.ofNat code) = true := by
  have beyondCapitals := image.beyondCapitals
  have stays : lowerChar (Char.ofNat code) = Char.ofNat code := by
    rw [lowerChar, image.toNat_eq, image.unmapped, Int.add_zero, Int.toNat_natCast]
    split
    · rw [if_neg]
      simp only [Bool.and_eq_true, decide_eq_true_eq, not_and]
      omega
    · rfl
  have notDotted : Char.ofNat code ≠ 'İ' := by
    intro same
    apply image.notDotted
    rw [← same, image.toNat_eq]
  rw [isSettled, Bool.and_eq_true, decide_eq_true_eq, decide_eq_true_eq]
  exact ⟨notDotted, stays⟩

end IsImage

/-- A character that lower-casing changes is not blank, and it becomes one that is settled, not blank
and beyond the capitals of ASCII. -/
theorem lowerChar_of_changed
    {character : Char}
    (changed : lowerChar character ≠ character) :
    isBlank character = false ∧ isSettled (lowerChar character) = true ∧
      isBlank (lowerChar character) = false ∧ 97 ≤ (lowerChar character).toNat := by
  by_cases ascii : character.toNat < 128
  · have every : ∀ code : Fin 128, lowerChar (Char.ofNat code) ≠ Char.ofNat code →
        isBlank (Char.ofNat code) = false ∧ isSettled (lowerChar (Char.ofNat code)) = true ∧
          isBlank (lowerChar (Char.ofNat code)) = false ∧
            97 ≤ (lowerChar (Char.ofNat code)).toNat := by
      decide +kernel
    have here := every ⟨character.toNat, ascii⟩
    rw [Char.ofNat_toNat] at here
    exact here changed
  · have moved : lowerChar character =
        Char.ofNat (character.toNat + lowerDistance lowerRuns character.toNat).toNat := by
      rw [lowerChar, if_neg ascii]
    have unmoved : lowerDistance lowerRuns character.toNat ≠ 0 := by
      intro still
      rw [still, Int.add_zero, Int.toNat_natCast, Char.ofNat_toNat] at moved
      exact changed moved
    obtain ⟨run, member, maps, found⟩ := (lowerDistance_cases lowerRuns _).resolve_left unmoved
    have image := isImage_of_maps member maps
    rw [found] at moved
    rw [moved]
    refine ⟨?_, image.isSettled_eq, image.isBlank_eq, ?_⟩
    · by_contra blank
      rw [Bool.not_eq_false] at blank
      exact unmoved (table_of_blank blank).1
    · rw [image.toNat_eq]
      exact image.beyondCapitals

/-- Digits and most punctuation come before the capitals, and everything there is settled. -/
theorem isSettled_of_early
    {character : Char}
    (early : character.toNat < 65) :
    isSettled character = true := by
  have every : ∀ code : Fin 65, isSettled (Char.ofNat code) = true := by decide +kernel
  have here := every ⟨character.toNat, early⟩
  rw [Char.ofNat_toNat] at here
  exact here

/-- The lower-case form of a character, given what is behind it, nearest first, and what is ahead. -/
def lowerAt (behind : List Char) (character : Char) (ahead : List Char) : List Char :=
  if character = 'İ' then ['i', '\u0307']
  else if character = 'Σ' then
    if meetsCased behind && !meetsCased ahead then ['ς'] else ['σ']
  else [lowerChar character]

theorem lowerAfter_cons
    (behind : List Char)
    (character : Char)
    (ahead : List Char) :
    lowerAfter behind (character :: ahead) =
      lowerAt behind character ahead ++ lowerAfter (character :: behind) ahead :=
  rfl

/-- What may stand in place of a character that is not settled. -/
structure Replaces (piece : List Char) (character : Char) : Prop where
  unsettled : isSettled character = false
  notBlank : isBlank character = false
  nonempty : piece ≠ []
  settles : ∀ lowered ∈ piece,
    isSettled lowered = true ∧ isBlank lowered = false ∧ 97 ≤ lowered.toNat

/-- A character is settled and stays, or it is replaced. -/
theorem lowerAt_cases
    (behind : List Char)
    (character : Char)
    (ahead : List Char) :
    (isSettled character = true ∧ lowerAt behind character ahead = [character]) ∨
      Replaces (lowerAt behind character ahead) character := by
  have settledLetter : isSettled 'i' = true ∧ isBlank 'i' = false ∧ 97 ≤ 'i'.toNat := by
    decide +kernel
  have settledDot : isSettled '\u0307' = true ∧ isBlank '\u0307' = false ∧
      97 ≤ '\u0307'.toNat := by
    decide +kernel
  have atEnd : isSettled 'ς' = true ∧ isBlank 'ς' = false ∧ 97 ≤ 'ς'.toNat := by decide +kernel
  have inside : isSettled 'σ' = true ∧ isBlank 'σ' = false ∧ 97 ≤ 'σ'.toNat := by decide +kernel
  unfold lowerAt
  split
  · next dotted =>
      subst dotted
      exact .inr ⟨by decide +kernel, by decide, by simp,
        List.forall_mem_cons.mpr ⟨settledLetter, List.forall_mem_singleton.mpr settledDot⟩⟩
  · next notDotted =>
      split
      · next sigma =>
          subst sigma
          right
          split
          · exact ⟨by decide +kernel, by decide, by simp, List.forall_mem_singleton.mpr atEnd⟩
          · exact ⟨by decide +kernel, by decide, by simp, List.forall_mem_singleton.mpr inside⟩
      · by_cases still : lowerChar character = character
        · left
          rw [still]
          simp [isSettled, notDotted, still]
        · right
          obtain ⟨notBlank, settled, stillNotBlank, beyond⟩ := lowerChar_of_changed still
          refine ⟨by simp [isSettled, still], notBlank, by simp, ?_⟩
          intro lowered member
          rw [List.mem_singleton.mp member]
          exact ⟨settled, stillNotBlank, beyond⟩

theorem lowerAt_of_settled
    (behind : List Char)
    {character : Char}
    (settled : isSettled character = true)
    (ahead : List Char) :
    lowerAt behind character ahead = [character] := by
  rcases lowerAt_cases behind character ahead with ⟨-, same⟩ | replaced
  · exact same
  · rw [replaced.unsettled] at settled
    nomatch settled

theorem lowerAt_ne_nil
    (behind : List Char)
    (character : Char)
    (ahead : List Char) :
    lowerAt behind character ahead ≠ [] := by
  rcases lowerAt_cases behind character ahead with ⟨-, same⟩ | replaced
  · rw [same]
    exact List.cons_ne_nil _ _
  · exact replaced.nonempty

/-! ## Whole texts -/

/-- Lower-casing leaves settled texts as they are. -/
theorem lower_of_settled
    {text : List Char}
    (settled : ∀ character ∈ text, isSettled character = true) :
    lower text = text := by
  have every : ∀ behind, lowerAfter behind text = text := by
    induction text with
    | nil => exact fun _ => rfl
    | cons first rest inductionHypothesis =>
        obtain ⟨here, later⟩ := List.forall_mem_cons.mp settled
        intro behind
        rw [lowerAfter_cons, lowerAt_of_settled _ here, inductionHypothesis later]
        rfl
  exact every []

theorem settled_of_mem_lowerAfter
    {behind text : List Char}
    {lowered : Char}
    (member : lowered ∈ lowerAfter behind text) :
    isSettled lowered = true := by
  induction text generalizing behind with
  | nil => nomatch member
  | cons first rest inductionHypothesis =>
      rw [lowerAfter_cons] at member
      rcases List.mem_append.mp member with here | later
      · rcases lowerAt_cases behind first rest with ⟨settled, same⟩ | replaced
        · rw [same, List.mem_singleton] at here
          rw [here]
          exact settled
        · exact (replaced.settles lowered here).1
      · exact inductionHypothesis later

theorem settled_of_mem_lower
    {text : List Char}
    {lowered : Char}
    (member : lowered ∈ lower text) :
    isSettled lowered = true :=
  settled_of_mem_lowerAfter member

theorem lower_lower (text : List Char) : lower (lower text) = lower text :=
  lower_of_settled fun _ => settled_of_mem_lower

/-- A settled character before the small letters stands in the lower-case form of a text as often as
in the text. -/
theorem count_lower
    {character : Char}
    (early : character.toNat < 97)
    (settled : isSettled character = true)
    (text : List Char) :
    (lower text).count character = text.count character := by
  have every : ∀ behind, (lowerAfter behind text).count character = text.count character := by
    induction text with
    | nil => exact fun _ => rfl
    | cons first rest inductionHypothesis =>
        intro behind
        rw [lowerAfter_cons, List.count_append, inductionHypothesis]
        rcases lowerAt_cases behind first rest with ⟨-, same⟩ | replaced
        · rw [same, ← List.count_append, List.singleton_append]
        · have absent : character ∉ lowerAt behind first rest := by
            intro member
            have late := (replaced.settles character member).2.2
            omega
          have different : first ≠ character := by
            rintro rfl
            rw [replaced.unsettled] at settled
            nomatch settled
          rw [List.count_eq_zero_of_not_mem absent, Nat.zero_add, List.count_cons_of_ne different]
  exact every []

theorem mem_lower_iff
    {character : Char}
    (early : character.toNat < 97)
    (settled : isSettled character = true)
    {text : List Char} :
    character ∈ lower text ↔ character ∈ text := by
  rw [← List.count_pos_iff, count_lower early settled, List.count_pos_iff]

/-- A text whose lower-case form has only characters before the small letters is in lower case. -/
theorem lower_eq_self_of_early
    {text : List Char}
    (early : ∀ lowered ∈ lower text, lowered.toNat < 97) :
    lower text = text := by
  have every : ∀ behind, (∀ lowered ∈ lowerAfter behind text, lowered.toNat < 97) →
      ∀ character ∈ text, isSettled character = true := by
    clear early
    induction text with
    | nil => exact fun _ _ => List.forall_mem_nil _
    | cons first rest inductionHypothesis =>
        intro behind early
        rw [lowerAfter_cons, List.forall_mem_append] at early
        refine List.forall_mem_cons.mpr ⟨?_, inductionHypothesis _ early.2⟩
        rcases lowerAt_cases behind first rest with ⟨settled, -⟩ | replaced
        · exact settled
        · obtain ⟨lowered, member⟩ := List.exists_mem_of_ne_nil _ replaced.nonempty
          have here := early.1 lowered member
          have late := (replaced.settles lowered member).2.2
          omega
  exact lower_of_settled (every [] early)

theorem lower_eq_nil_iff
    {text : List Char} :
    lower text = [] ↔ text = [] := by
  cases text with
  | nil => simp
  | cons first rest => simp [lower, lowerAfter_cons, lowerAt_ne_nil]

/-! ## Pieces of a text -/

/-- A settled character that takes no part in deciding how a sigma ends a word. -/
def isNeutral (character : Char) : Bool :=
  isSettled character && !isCased character && !isCaseIgnorable character

theorem isNeutral_of_isBlank
    {character : Char}
    (blank : isBlank character = true) :
    isNeutral character = true := by
  obtain ⟨-, notCased, notIgnorable⟩ := table_of_blank blank
  have settled : isSettled character = true := by
    rcases lowerAt_cases [] character [] with ⟨settled, -⟩ | replaced
    · exact settled
    · rw [replaced.notBlank] at blank
      nomatch blank
  simp [isNeutral, settled, isCased, isCaseIgnorable, notCased, notIgnorable]

theorem isSettled_of_isNeutral
    {character : Char}
    (neutral : isNeutral character = true) :
    isSettled character = true := by
  rw [isNeutral, Bool.and_eq_true, Bool.and_eq_true] at neutral
  exact neutral.1.1

/-- What lies beyond a neutral character is not met. -/
theorem meetsCased_append_cons
    (near : List Char)
    {character : Char}
    (neutral : isNeutral character = true)
    (beyond : List Char) :
    meetsCased (near ++ character :: beyond) = meetsCased near := by
  rw [isNeutral, Bool.and_eq_true, Bool.and_eq_true, Bool.not_eq_true', Bool.not_eq_true'] at neutral
  obtain ⟨⟨-, notCased⟩, notIgnorable⟩ := neutral
  unfold meetsCased
  induction near with
  | nil => simp [notIgnorable, notCased]
  | cons first near inductionHypothesis =>
      cases ignored : isCaseIgnorable first with
      | true => simpa [ignored] using inductionHypothesis
      | false => simp [ignored]

theorem lowerAt_append_cons
    (behind : List Char)
    (first : Char)
    (near : List Char)
    {character : Char}
    (neutral : isNeutral character = true)
    (beyond : List Char) :
    lowerAt behind first (near ++ character :: beyond) = lowerAt behind first near := by
  rw [lowerAt, meetsCased_append_cons near neutral, ← lowerAt]

/-- What is behind a neutral character does not matter. -/
theorem lowerAfter_append_cons
    (near : List Char)
    {character : Char}
    (neutral : isNeutral character = true)
    (beyond text : List Char) :
    lowerAfter (near ++ character :: beyond) text = lowerAfter near text := by
  induction text generalizing near with
  | nil => rfl
  | cons first rest inductionHypothesis =>
      have later := inductionHypothesis (first :: near)
      rw [List.cons_append] at later
      rw [lowerAfter_cons, lowerAfter_cons, later, lowerAt,
        meetsCased_append_cons near neutral, ← lowerAt]

/-- A text is lower-cased before and after a neutral character. -/
theorem lower_append_cons
    (front : List Char)
    {character : Char}
    (neutral : isNeutral character = true)
    (rest : List Char) :
    lower (front ++ character :: rest) = lower front ++ character :: lower rest := by
  have every : ∀ behind, lowerAfter behind (front ++ character :: rest) =
      lowerAfter behind front ++ character :: lower rest := by
    induction front with
    | nil =>
        intro behind
        have fresh := lowerAfter_append_cons [] neutral behind rest
        rw [List.nil_append] at fresh
        rw [List.nil_append, lowerAfter_cons, fresh,
          lowerAt_of_settled _ (isSettled_of_isNeutral neutral)]
        rfl
    | cons first front inductionHypothesis =>
        intro behind
        rw [List.cons_append, lowerAfter_cons, lowerAfter_cons, inductionHypothesis,
          lowerAt_append_cons _ _ _ neutral, List.append_assoc]
  exact every []

theorem lower_cons
    {character : Char}
    (neutral : isNeutral character = true)
    (rest : List Char) :
    lower (character :: rest) = character :: lower rest :=
  lower_append_cons [] neutral rest

theorem lower_concat
    (front : List Char)
    {character : Char}
    (neutral : isNeutral character = true) :
    lower (front ++ [character]) = lower front ++ [character] :=
  lower_append_cons front neutral []

/-! ## Lower case and trimming -/

/-- What stands in place of a character that is not blank has no blanks. -/
theorem notBlank_of_mem_lowerAt
    {behind ahead : List Char}
    {character lowered : Char}
    (notBlank : isBlank character = false)
    (member : lowered ∈ lowerAt behind character ahead) :
    isBlank lowered = false := by
  rcases lowerAt_cases behind character ahead with ⟨-, same⟩ | replaced
  · rw [same, List.mem_singleton] at member
    rw [member]
    exact notBlank
  · exact (replaced.settles lowered member).2.1

theorem trimStart_lower (text : List Char) : trimStart (lower text) = lower (trimStart text) := by
  induction text with
  | nil => rfl
  | cons first rest inductionHypothesis =>
      cases blank : isBlank first with
      | true =>
          have dropped : trimStart (first :: rest) = trimStart rest := by simp [trimStart, blank]
          rw [lower_cons (isNeutral_of_isBlank blank), dropped, ← inductionHypothesis]
          simp [trimStart, blank]
      | false =>
          obtain ⟨lowered, others, begins⟩ :=
            List.exists_cons_of_ne_nil (lowerAt_ne_nil [] first rest)
          have notBlank : isBlank lowered = false :=
            notBlank_of_mem_lowerAt blank (begins ▸ List.mem_cons_self)
          rw [trimStart_cons_of_not_blank blank, lower, lowerAfter_cons, begins, List.cons_append,
            trimStart_cons_of_not_blank notBlank]

/-- The lower-case form of a text ends with that of its last character. -/
theorem exists_lowerAfter_concat
    (behind front : List Char)
    (last : Char) :
    ∃ lowered behindLast, lowerAfter behind (front ++ [last]) =
      lowered ++ lowerAt behindLast last [] := by
  induction front generalizing behind with
  | nil => exact ⟨[], behind, List.append_nil _⟩
  | cons first front inductionHypothesis =>
      obtain ⟨lowered, behindLast, same⟩ := inductionHypothesis (first :: behind)
      refine ⟨lowerAt behind first (front ++ [last]) ++ lowered, behindLast, ?_⟩
      rw [List.cons_append, lowerAfter_cons, same, List.append_assoc]

theorem trimEnd_lower (text : List Char) : trimEnd (lower text) = lower (trimEnd text) := by
  induction text using List.reverseRecOn with
  | nil => rfl
  | append_singleton front last inductionHypothesis =>
      cases blank : isBlank last with
      | true =>
          have allBlank : ∀ character ∈ [last], isBlank character = true := by simp [blank]
          rw [lower_concat front (isNeutral_of_isBlank blank), trimEnd_append_of_blank _ allBlank,
            trimEnd_append_of_blank _ allBlank, inductionHypothesis]
      | false =>
          obtain ⟨lowered, behindLast, whole⟩ := exists_lowerAfter_concat [] front last
          obtain ⟨others, lowest, ends⟩ :=
            (List.eq_nil_or_concat' _).resolve_left (lowerAt_ne_nil behindLast last [])
          have notBlank : isBlank lowest = false :=
            notBlank_of_mem_lowerAt blank (ends ▸ List.mem_append_right _ List.mem_cons_self)
          rw [trimEnd_concat_of_not_blank front blank, lower, whole, ends, ← List.append_assoc,
            trimEnd_concat_of_not_blank _ notBlank]

/-- Trimming and lower-casing may be done in either order. -/
theorem trim_lower (text : List Char) : trim (lower text) = lower (trim text) := by
  rw [trim, trimStart_lower, trimEnd_lower, trim]

/-! ## The case of ASCII letters -/

/-- A character is a capital of ASCII, with the small letter 32 places on, or keeps its ASCII case. -/
theorem toLower_cases (character : Char) :
    character.toLower = character ∨
      ∃ index : Fin 26, character = Char.ofNat (65 + index) ∧
        character.toLower = Char.ofNat (97 + index) := by
  by_cases ascii : character.toNat < 128
  · have every : ∀ code : Fin 128, (Char.ofNat code).toLower = Char.ofNat code ∨
        ∃ index : Fin 26, Char.ofNat code = Char.ofNat (65 + index) ∧
          (Char.ofNat code).toLower = Char.ofNat (97 + index) := by
      decide +kernel
    have here := every ⟨character.toNat, ascii⟩
    rw [Char.ofNat_toNat] at here
    exact here
  · left
    refine dif_neg ?_
    rintro ⟨-, capital⟩
    have small : character.toNat ≤ 90 := capital
    omega

/-- What does not tell capitals of ASCII from small letters does not see their case at all. -/
theorem apply_toLower
    {α : Type}
    {f : Char → α}
    (same : ∀ index : Fin 26, f (Char.ofNat (65 + index)) = f (Char.ofNat (97 + index)))
    (character : Char) :
    f character.toLower = f character := by
  rcases toLower_cases character with still | ⟨index, capital, small⟩
  · rw [still]
  · rw [small, capital, same]

theorem isBlank_toLower (character : Char) : isBlank character.toLower = isBlank character :=
  apply_toLower (by decide) character

theorem meetsCased_map_toLower (text : List Char) :
    meetsCased (text.map Char.toLower) = meetsCased text := by
  unfold meetsCased
  induction text with
  | nil => rfl
  | cons first rest inductionHypothesis =>
      have sameIgnorable : isCaseIgnorable first.toLower = isCaseIgnorable first :=
        apply_toLower (by decide) first
      have sameCased : isCased first.toLower = isCased first := apply_toLower (by decide) first
      cases ignored : isCaseIgnorable first with
      | true => simpa [sameIgnorable, ignored] using inductionHypothesis
      | false => simpa [sameIgnorable, ignored] using sameCased

/-- Lower-casing does not see the case of ASCII letters. -/
theorem lower_map_toLower (text : List Char) : lower (text.map Char.toLower) = lower text := by
  have every : ∀ behind,
      lowerAfter (behind.map Char.toLower) (text.map Char.toLower) = lowerAfter behind text := by
    induction text with
    | nil => exact fun _ => rfl
    | cons first rest inductionHypothesis =>
        intro behind
        have sameDotted : (first.toLower = 'İ') = (first = 'İ') :=
          apply_toLower (f := (· = 'İ')) (fun index => propext (by revert index; decide)) first
        have sameSigma : (first.toLower = 'Σ') = (first = 'Σ') :=
          apply_toLower (f := (· = 'Σ')) (fun index => propext (by revert index; decide)) first
        have sameChar : lowerChar first.toLower = lowerChar first :=
          apply_toLower (by decide) first
        have later := inductionHypothesis (first :: behind)
        rw [List.map_cons] at later
        rw [List.map_cons, lowerAfter_cons, lowerAfter_cons, later, lowerAt, lowerAt,
          meetsCased_map_toLower, meetsCased_map_toLower, sameChar]
        simp only [sameDotted, sameSigma]
  exact every []

theorem trim_map_toLower (text : List Char) :
    trim (text.map Char.toLower) = (trim text).map Char.toLower := by
  have sameBlank : isBlank ∘ Char.toLower = isBlank := funext isBlank_toLower
  simp only [trim, trimStart, trimEnd, List.dropWhile_map, sameBlank, ← List.map_reverse]

end Text
end CatalogIngest
