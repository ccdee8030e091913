import CatalogIngest.Text.Casing.Table

/-!
# Lower case

Lower-casing follows the full Unicode mapping. Characters map one by one, except that a dotted
capital I becomes two characters and that a capital sigma at the end of a word takes its final
form.
-/

namespace CatalogIngest
namespace Text

/-- The distance to the lower-case form of a code point beyond ASCII. -/
def lowerDistance : List CaseRun → Nat → Int
  | [], _ => 0
  | run :: later, code =>
      if code < run.first then 0
      else if code ≤ run.last then
        if (code - run.first) % run.step = 0 then run.distance else lowerDistance later code
      else lowerDistance later code

/-- The lower-case form of a character that has a one-character form. -/
def lowerChar (character : Char) : Char :=
  if character.toNat < 128 then
    if 65 ≤ character.toNat && character.toNat ≤ 90 then Char.ofNat (character.toNat + 32)
    else character
  else Char.ofNat (character.toNat + lowerDistance lowerRuns character.toNat).toNat

/-- Whether a character has the property `Cased`. -/
def isCased (character : Char) : Bool :=
  CodeRange.covers casedRanges character.toNat

/-- Whether a character has the property `Case_Ignorable`. -/
def isCaseIgnorable (character : Char) : Bool :=
  CodeRange.covers caseIgnorableRanges character.toNat

/-- Whether the first character that is not case-ignorable is cased. -/
def meetsCased (text : List Char) : Bool :=
  match text.dropWhile isCaseIgnorable with
  | [] => false
  | character :: _ => isCased character

/-- Lower-case a text whose earlier characters, nearest first, are already behind. -/
def lowerAfter : List Char → List Char → List Char
  | _, [] => []
  | behind, character :: ahead =>
      let lowered :=
        if character = 'İ' then ['i', '\u0307']
        else if character = 'Σ' then
          if meetsCased behind && !meetsCased ahead then ['ς'] else ['σ']
        else [lowerChar character]
      lowered ++ lowerAfter (character :: behind) ahead

/-- The lower-case form of a text. -/
def lower (text : List Char) : List Char :=
  lowerAfter [] text

/-- The lower-case form of a string. -/
def lowerString (text : String) : String :=
  String.ofList (lower text.toList)

@[simp] theorem lower_nil : lower [] = [] := rfl

end Text
end CatalogIngest
