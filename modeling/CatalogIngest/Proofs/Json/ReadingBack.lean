import CatalogIngest.Json.Document
import CatalogIngest.Proofs.Json.Spelling

/-!
# Documents of written values

A value is written as a text that spells tokens, and these tokens build a document again. Strings are
read back, and so are arrays and objects of values that are.
-/

namespace CatalogIngest
namespace Json

/-! ## Documents that tokens build -/

namespace Document

/-- Where a value may stand, tokens build a document. -/
def Builds (tokens : List Token) (document : Document) : Prop :=
  ∀ stack rest, advanceAll (.value stack) (tokens ++ rest) =
    advanceAll (.afterValue document stack) rest

theorem read?_of_builds
    {text : List Char}
    {tokens : List Token}
    (spells : Token.Spells text tokens)
    {document : Document}
    (builds : Builds tokens document) :
    read? (String.ofList text) = some document := by
  have built := builds [] []
  rw [List.append_nil] at built
  rw [read?, String.toList_ofList, Token.readAll_of_spells spells]
  dsimp only
  rw [built]
  rfl

theorem builds_string (text : Option String) : Builds [.string text] (.string text) :=
  fun _ _ => rfl

/-- What builds a document builds it as the first item of an array too. -/
theorem Builds.advance_firstItem
    {tokens : List Token}
    {document : Document}
    (builds : Builds tokens document)
    (stack : List Frame)
    (rest : List Token) :
    advanceAll (.firstItem stack) (tokens ++ rest) =
      advanceAll (.afterValue document (.array [] :: stack)) rest := by
  rw [← builds]
  cases tokens with
  | nil => nomatch builds [] []
  | cons token later =>
      cases token with
      | closeArray => nomatch builds [] []
      | _ => rfl

theorem advanceAll_items
    (first : Document)
    (before : List Document)
    (stack : List Frame)
    {groups : List (List Token)}
    {later : List Document}
    (built : List.Forall₂ Builds groups later)
    (rest : List Token) :
    advanceAll (.afterValue first (.array before :: stack))
        ((groups.flatMap fun tokens => .comma :: tokens) ++ .closeArray :: rest) =
      advanceAll (.afterValue (.array (before.reverse ++ first :: later)) stack) rest := by
  induction built generalizing first before with
  | nil =>
      rw [← List.reverse_cons]
      rfl
  | @cons tokens next groups later builds _ inductionHypothesis =>
      rw [List.flatMap_cons, List.append_assoc, List.cons_append]
      refine (builds (.array (first :: before) :: stack) _).trans ?_
      rw [inductionHypothesis, List.reverse_cons, List.append_assoc, List.singleton_append]

/-- Items between brackets build an array. -/
theorem builds_array
    {groups : List (List Token)}
    {items : List Document}
    (built : List.Forall₂ Builds groups items) :
    Builds (.openArray :: Token.commaSeparated groups ++ [.closeArray]) (.array items) := by
  intro stack rest
  cases built with
  | nil => rfl
  | @cons tokens first groups later builds laterBuilt =>
      have opened := builds.advance_firstItem stack
        ((groups.flatMap fun tokens => .comma :: tokens) ++ .closeArray :: rest)
      rw [advanceAll_items first [] stack laterBuilt] at opened
      simp only [Token.commaSeparated, List.cons_append, List.append_assoc, List.nil_append]
      exact opened

/-- The tokens of a member of an object, from those of its value. -/
def memberTokens (name : String) (tokens : List Token) : List Token :=
  .string (some name) :: .colon :: tokens

theorem advanceAll_members
    (first : Document)
    (firstName : String)
    (before : List (Option String × Document))
    (stack : List Frame)
    {groups : List (List Token)}
    {later : List (String × Document)}
    (built : List.Forall₂
      (fun group member => ∃ tokens, group = memberTokens member.1 tokens ∧ Builds tokens member.2)
      groups later)
    (rest : List Token) :
    advanceAll (.afterValue first (.object before (some firstName) :: stack))
        ((groups.flatMap fun tokens => .comma :: tokens) ++ .closeObject :: rest) =
      advanceAll
        (.afterValue (.object (before.reverse ++ (some firstName, first) ::
          later.map fun member => (some member.1, member.2))) stack) rest := by
  induction built generalizing first firstName before with
  | nil =>
      rw [List.map_nil, ← List.reverse_cons]
      rfl
  | @cons group next groups later builds _ inductionHypothesis =>
      obtain ⟨tokens, rfl, builds⟩ := builds
      rw [List.flatMap_cons, List.append_assoc, List.cons_append]
      refine (builds (.object ((some firstName, first) :: before) (some next.1) :: stack) _).trans ?_
      rw [inductionHypothesis, List.reverse_cons, List.append_assoc, List.singleton_append]
      rfl

/-- Members between braces build an object. -/
theorem builds_object
    {groups : List (List Token)}
    {members : List (String × Document)}
    (built : List.Forall₂
      (fun group member => ∃ tokens, group = memberTokens member.1 tokens ∧ Builds tokens member.2)
      groups members) :
    Builds (.openObject :: Token.commaSeparated groups ++ [.closeObject])
      (.object (members.map fun member => (some member.1, member.2))) := by
  intro stack rest
  cases built with
  | nil => rfl
  | @cons group first groups later builds laterBuilt =>
      obtain ⟨tokens, rfl, builds⟩ := builds
      have opened := builds (.object [] (some first.1) :: stack)
        ((groups.flatMap fun tokens => .comma :: tokens) ++ .closeObject :: rest)
      rw [advanceAll_members first.2 first.1 [] stack laterBuilt] at opened
      simp only [Token.commaSeparated, memberTokens, List.cons_append, List.append_assoc,
        List.nil_append]
      exact opened

end Document

/-! ## Values that are read back -/

/-- At every level a value is written as a text that spells tokens which build a document. -/
def Value.Writes (value : Value) (document : Document) : Prop :=
  ∃ tokens, (∀ level, Token.Spells (value.prettyChars level) tokens) ∧
    Document.Builds tokens document

namespace Value

theorem Writes.read?_pretty
    {value : Value}
    {document : Document}
    (writes : value.Writes document) :
    Document.read? value.pretty = some document := by
  obtain ⟨tokens, spells, builds⟩ := writes
  exact Document.read?_of_builds (spells 0) builds

theorem writes_string (text : String) : (Value.string text).Writes (.string (some text)) :=
  ⟨[.string (some text)], fun _ => Token.spells_quoted text, Document.builds_string _⟩

theorem prettyItems_eq_map
    (level : Nat)
    (items : List Value) :
    prettyItems level items = items.map (prettyChars level) := by
  induction items with
  | nil => rw [prettyItems, List.map_nil]
  | cons item later inductionHypothesis =>
      rw [prettyItems, inductionHypothesis, List.map_cons]

theorem prettyMembers_eq_map
    (level : Nat)
    (members : List (String × Value)) :
    prettyMembers level members =
      members.map fun member =>
        quoted member.1 ++ [':', ' '] ++ member.2.prettyChars level := by
  induction members with
  | nil => rw [prettyMembers, List.map_nil]
  | cons member later inductionHypothesis =>
      rw [prettyMembers, inductionHypothesis, List.map_cons]

/-- An array is read back if its items are. -/
theorem writes_array
    {items : List Value}
    {documents : List Document}
    (written : List.Forall₂ Writes items documents) :
    (Value.array items).Writes (.array documents) := by
  have groups : ∃ groups,
      (∀ level, List.Forall₂ Token.Spells (items.map (prettyChars level)) groups) ∧
        List.Forall₂ Document.Builds groups documents := by
    induction written with
    | nil => exact ⟨[], fun _ => .nil, .nil⟩
    | cons first _ inductionHypothesis =>
        obtain ⟨tokens, spells, builds⟩ := first
        obtain ⟨groups, laterSpells, laterBuilds⟩ := inductionHypothesis
        exact ⟨tokens :: groups, fun level => .cons (spells level) (laterSpells level),
          .cons builds laterBuilds⟩
  obtain ⟨groups, spells, builds⟩ := groups
  refine ⟨_, fun level => ?_, Document.builds_array builds⟩
  rw [prettyChars, prettyItems_eq_map]
  have opens : Token.Spells ['['] [.openArray] := Token.spells_token (by decide) fun _ => rfl
  have closes : Token.Spells [']'] [.closeArray] := Token.spells_token (by decide) fun _ => rfl
  exact Token.spells_block level opens closes (spells (level + 1))

/-- An object is read back if the values of its members are. -/
theorem writes_object
    {members : List (String × Value)}
    {documents : List (String × Document)}
    (written : List.Forall₂
      (fun member document => member.1 = document.1 ∧ member.2.Writes document.2)
      members documents) :
    (Value.object members).Writes
      (.object (documents.map fun member => (some member.1, member.2))) := by
  have groups : ∃ groups,
      (∀ level, List.Forall₂ Token.Spells
        (members.map fun member =>
          quoted member.1 ++ [':', ' '] ++ member.2.prettyChars level) groups) ∧
        List.Forall₂
          (fun group member =>
            ∃ tokens, group = Document.memberTokens member.1 tokens ∧
              Document.Builds tokens member.2)
          groups documents := by
    induction written with
    | nil => exact ⟨[], fun _ => .nil, .nil⟩
    | @cons member document _ _ first _ inductionHypothesis =>
        obtain ⟨sameName, tokens, spells, builds⟩ := first
        obtain ⟨groups, laterSpells, laterBuilds⟩ := inductionHypothesis
        refine ⟨Document.memberTokens document.1 tokens :: groups,
          fun level => .cons ?_ (laterSpells level), .cons ⟨tokens, rfl, builds⟩ laterBuilds⟩
        have colon : Token.Spells [':'] [.colon] := Token.spells_token (by decide) fun _ => rfl
        have blank : Token.Spells [' '] [] :=
          Token.spells_gaps (List.forall_mem_singleton.mpr rfl)
        dsimp only
        rw [sameName]
        exact ((Token.spells_quoted document.1).append (colon.append blank)).append (spells level)
  obtain ⟨groups, spells, builds⟩ := groups
  refine ⟨_, fun level => ?_, Document.builds_object builds⟩
  rw [prettyChars, prettyMembers_eq_map]
  have opens : Token.Spells ['\x7b'] [.openObject] :=
    Token.spells_token (by decide) fun _ => rfl
  have closes : Token.Spells ['\x7d'] [.closeObject] :=
    Token.spells_token (by decide) fun _ => rfl
  exact Token.spells_block level opens closes (spells (level + 1))

end Value
end Json
end CatalogIngest
