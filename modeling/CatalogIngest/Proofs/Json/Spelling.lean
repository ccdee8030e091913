import CatalogIngest.Json.Printer
import CatalogIngest.Json.Token
import Mathlib.Data.List.Forall2

/-!
# Reading back what is written

A text spells tokens if a reader that meets it finds these tokens, whatever follows. Written strings
spell themselves, and blocks of pieces spell what their pieces spell, with commas and brackets.
-/

namespace CatalogIngest
namespace Json

/-! ## Strings -/

theorem hexValue?_hexDigit : ∀ digit < 16, Token.hexValue? (hexDigit digit) = some digit := by
  decide

theorem unit?_hexDigit
    {unit : Nat}
    (small : unit < 256) :
    Token.unit? '0' '0' (hexDigit (unit / 16)) (hexDigit (unit % 16)) = some unit := by
  have zero : Token.hexValue? '0' = some 0 := by
    decide
  have high := hexValue?_hexDigit (unit / 16) (by omega)
  have low := hexValue?_hexDigit (unit % 16) (by omega)
  simp only [Token.unit?, zero, high, low, Option.bind_eq_bind, Option.bind_some, Option.pure_def,
    Option.some.injEq]
  omega

namespace Token

theorem pushUnit_small
    (characters : List Char)
    {character : Char}
    (small : character.toNat < 32) :
    Pending.pushUnit ⟨some characters, none⟩ character.toNat =
      ⟨some (character :: characters), none⟩ := by
  unfold Pending.pushUnit
  rw [if_neg (by omega), if_neg (by omega), Char.ofNat_toNat]
  rfl

/-- A character that needs no escape is read as it stands. -/
theorem readString?_plain
    (pending : Pending)
    {character : Char}
    (noQuote : character ≠ '"')
    (noEscape : character ≠ '\\')
    (visible : ¬ character.toNat < 32)
    (rest : List Char) :
    readString? pending (character :: rest) = readString? (pending.push character) rest := by
  rw [readString?.eq_def]
  split
  · next same => nomatch same
  · next same => exact absurd (List.cons.inj same).1 noQuote
  · next same => exact absurd (List.cons.inj same).1 noEscape
  · next same => exact absurd (List.cons.inj same).1 noEscape
  · next same =>
      obtain ⟨rfl, rfl⟩ := List.cons.inj same
      rw [if_neg (not_or.mpr ⟨visible, noEscape⟩)]

/-- An escaped character is read as the character. -/
theorem readString?_escapeChar
    (characters : List Char)
    (character : Char)
    (rest : List Char) :
    readString? ⟨some characters, none⟩ (escapeChar character ++ rest) =
      readString? ⟨some (character :: characters), none⟩ rest := by
  unfold escapeChar
  split
  · next same =>
      subst same
      rfl
  split
  · next same =>
      subst same
      rfl
  split
  · next same =>
      subst same
      rfl
  split
  · next same =>
      subst same
      rfl
  split
  · next same =>
      subst same
      rfl
  split
  · next code =>
      have same : character = '\x08' := by
        rw [← Char.ofNat_toNat character, code]
      subst same
      rfl
  split
  · next code =>
      have same : character = '\x0c' := by
        rw [← Char.ofNat_toNat character, code]
      subst same
      rfl
  split
  · next small =>
      have unit := unit?_hexDigit (show character.toNat < 256 by omega)
      simp only [List.cons_append, List.nil_append]
      rw [readString?, unit, ← pushUnit_small characters small]
  · next noQuote noEscape _ _ _ _ _ visible =>
      exact readString?_plain _ noQuote noEscape visible rest

theorem readString?_escaped
    (before text rest : List Char) :
    readString? ⟨some before, none⟩ (text.flatMap escapeChar ++ '"' :: rest) =
      some (.string (some (String.ofList (before.reverse ++ text))), rest) := by
  induction text generalizing before with
  | nil =>
      rw [List.append_nil]
      rfl
  | cons character later inductionHypothesis =>
      rw [List.flatMap_cons, List.append_assoc, readString?_escapeChar, inductionHypothesis,
        List.reverse_cons, List.append_assoc, List.singleton_append]

/-- A written string is read as its text. -/
theorem read?_quoted
    (text : String)
    (rest : List Char) :
    read? (quoted text ++ rest) = some (.string (some text), rest) := by
  have escaped := readString?_escaped [] text.toList rest
  rw [List.reverse_nil, List.nil_append, String.ofList_toList] at escaped
  rw [← escaped]
  simp only [quoted, List.cons_append, List.append_assoc, List.nil_append]
  rfl

/-! ## Spelling -/

/-- A text spells tokens: a reader that meets it goes on behind it with these tokens found. -/
structure Spells (text : List Char) (tokens : List Token) : Prop where
  within : tokens.length ≤ text.length
  read : ∀ fuel found rest, readAllWith (fuel + tokens.length) found (text ++ rest) =
    readAllWith fuel (tokens.reverse ++ found) rest

theorem readAllWith_gap
    (fuel : Nat)
    (found : List Token)
    {character : Char}
    (gap : isGap character = true)
    (rest : List Char) :
    readAllWith fuel found (character :: rest) = readAllWith fuel found rest := by
  rw [readAllWith.eq_def, readAllWith.eq_def, List.dropWhile_cons_of_pos gap]

theorem readAllWith_token
    (fuel : Nat)
    (found : List Token)
    {character : Char}
    (visible : isGap character = false)
    {text rest : List Char}
    {token : Token}
    (next : read? (character :: text) = some (token, rest)) :
    readAllWith (fuel + 1) found (character :: text) = readAllWith fuel (token :: found) rest := by
  rw [readAllWith.eq_def]
  have kept : (character :: text).dropWhile isGap = character :: text :=
    List.dropWhile_cons_of_neg (by simp [visible])
  rw [kept]
  dsimp only
  rw [next]

theorem readAll_of_spells
    {text : List Char}
    {tokens : List Token}
    (spells : Spells text tokens) :
    readAll text = some tokens := by
  obtain ⟨spare, enough⟩ := Nat.exists_eq_add_of_le' spells.within
  have reached := spells.read spare [] []
  rw [List.append_nil, List.append_nil] at reached
  rw [readAll, enough, reached]
  cases spare <;> exact congrArg some (List.reverse_reverse tokens)

theorem spells_nil : Spells [] [] where
  within := Nat.le_refl 0
  read _ _ _ := rfl

theorem Spells.append
    {first second : List Char}
    {firstTokens secondTokens : List Token}
    (spells : Spells first firstTokens)
    (later : Spells second secondTokens) :
    Spells (first ++ second) (firstTokens ++ secondTokens) where
  within := by
    have firstWithin := spells.within
    have secondWithin := later.within
    simp only [List.length_append]
    omega
  read fuel found rest := by
    rw [List.append_assoc, List.length_append, Nat.add_comm firstTokens.length, ← Nat.add_assoc,
      spells.read, later.read, List.reverse_append, List.append_assoc]

/-- A text that is read as a token spells it. -/
theorem spells_token
    {character : Char}
    (visible : isGap character = false)
    {text : List Char}
    {token : Token}
    (next : ∀ rest, read? (character :: text ++ rest) = some (token, rest)) :
    Spells (character :: text) [token] where
  within := by simp
  read fuel found rest := readAllWith_token fuel found visible (next rest)

theorem spells_quoted (text : String) : Spells (quoted text) [.string (some text)] :=
  spells_token (by decide) (read?_quoted text)

theorem spells_gaps
    {gaps : List Char}
    (every : ∀ character ∈ gaps, isGap character = true) :
    Spells gaps [] where
  within := Nat.zero_le _
  read fuel found rest := by
    induction gaps with
    | nil => rfl
    | cons character later inductionHypothesis =>
        obtain ⟨gap, laterGaps⟩ := List.forall_mem_cons.mp every
        rw [List.cons_append, readAllWith_gap _ _ gap]
        exact inductionHypothesis laterGaps

theorem spells_lineStart (level : Nat) : Spells (Value.lineStart level) [] := by
  apply spells_gaps
  intro character member
  rcases List.mem_cons.mp member with rfl | member
  · decide
  · rw [List.eq_of_mem_replicate member]
    decide

/-! ## Blocks -/

/-- Tokens with a comma between each two groups. -/
def commaSeparated : List (List Token) → List Token
  | [] => []
  | first :: later => first ++ later.flatMap fun tokens => .comma :: tokens

theorem separated_cons
    (separator first : List Char)
    (later : List (List Char)) :
    separated separator (first :: later) = first ++ later.flatMap fun piece => separator ++ piece := by
  induction later generalizing first with
  | nil => rw [separated, List.flatMap_nil, List.append_nil]
  | cons second later inductionHypothesis =>
      have step : separated separator (first :: second :: later) =
          first ++ separator ++ separated separator (second :: later) :=
        separated.eq_3 separator first (second :: later) fun none => nomatch none
      rw [step, inductionHypothesis, List.flatMap_cons, List.append_assoc, List.append_assoc]

theorem spells_separated
    {separator : List Char}
    (comma : Spells separator [.comma])
    {pieces : List (List Char)}
    {groups : List (List Token)}
    (spelled : List.Forall₂ Spells pieces groups) :
    Spells (separated separator pieces) (commaSeparated groups) := by
  cases spelled with
  | nil => exact spells_nil
  | cons first later =>
      rw [separated_cons, commaSeparated]
      refine first.append ?_
      induction later with
      | nil => exact spells_nil
      | cons next _ inductionHypothesis =>
          rw [List.flatMap_cons, List.flatMap_cons]
          exact (comma.append next).append inductionHypothesis

/-- A block spells its brackets, and between them what its pieces spell. -/
theorem spells_block
    (level : Nat)
    {opening closing : Char}
    {openToken closeToken : Token}
    (opens : Spells [opening] [openToken])
    (closes : Spells [closing] [closeToken])
    {pieces : List (List Char)}
    {groups : List (List Token)}
    (spelled : List.Forall₂ Spells pieces groups) :
    Spells (Value.block level opening closing pieces)
      (openToken :: commaSeparated groups ++ [closeToken]) := by
  have comma : Spells [','] [.comma] := spells_token (by decide) fun _ => rfl
  have separator : Spells (',' :: Value.lineStart (level + 1)) [.comma] :=
    comma.append (spells_lineStart (level + 1))
  have between := spells_separated separator spelled
  cases spelled with
  | nil => exact opens.append closes
  | cons first later =>
      have inside := ((opens.append (spells_lineStart (level + 1))).append between).append
        ((spells_lineStart level).append closes)
      unfold Value.block
      simpa using inside

end Token
end Json
end CatalogIngest
