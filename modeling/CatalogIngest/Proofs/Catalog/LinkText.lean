import CatalogIngest.EntityLink
import CatalogIngest.Proofs.Text.FirstOccurrence

/-!
# Texts of entity links

A text is read as a link exactly if it is the text of that link and the link can be told from it: its
names are not empty, and the first place where the separator occurs is the one between them. A
separator that begins inside the name of the table, even if it ends behind it, cuts that name short.
-/

namespace CatalogIngest
namespace EntityLink

/-- The characters of a link between its brackets. -/
def bodyChars (link : EntityLink) : List Char :=
  match link.column with
  | none => link.table.toList
  | some column => link.table.toList ++ separator ++ column.toList

/-- The names of a link are not empty, and the separator does not begin inside the name of the
table. -/
def Readable (link : EntityLink) : Prop :=
  link.table ≠ "" ∧ link.column ≠ some "" ∧
    match link.column with
    | none => ¬ "::columns::".toList <:+: link.table.toList
    | some _ => ¬ "::columns::".toList <:+: link.table.toList ++ "::columns:".toList

instance (link : EntityLink) : Decidable link.Readable :=
  match link with
  | ⟨table, none⟩ => inferInstanceAs (Decidable (table ≠ "" ∧ none ≠ some "" ∧
      ¬ "::columns::".toList <:+: table.toList))
  | ⟨table, some column⟩ => inferInstanceAs (Decidable (table ≠ "" ∧ some column ≠ some "" ∧
      ¬ "::columns::".toList <:+: table.toList ++ "::columns:".toList))

theorem displayChars_eq
    (link : EntityLink) :
    link.displayChars = opening ++ link.bodyChars ++ ['>'] := by
  obtain ⟨table, column⟩ := link
  cases column with
  | none => rfl
  | some column => simp [displayChars, bodyChars]

theorem separator_ne_nil : separator ≠ [] := by
  decide

theorem dropLast_separator : separator.dropLast = "::columns:".toList := by
  decide

theorem readable_ofTable
    (table : String) :
    Readable ⟨table, none⟩ ↔ table.toList ≠ [] ∧ ¬ separator <:+: table.toList := by
  rw [ne_eq, String.toList_eq_nil_iff]
  exact ⟨fun ⟨named, _, absent⟩ => ⟨named, absent⟩, fun ⟨named, absent⟩ => ⟨named, by simp, absent⟩⟩

theorem readable_ofColumn
    (table column : String) :
    Readable ⟨table, some column⟩ ↔ table.toList ≠ [] ∧ column.toList ≠ [] ∧
      ¬ separator <:+: table.toList ++ separator.dropLast := by
  rw [ne_eq, ne_eq, String.toList_eq_nil_iff, String.toList_eq_nil_iff, dropLast_separator]
  exact and_congr_right fun _ => and_congr_left fun _ => not_congr Option.some_inj

/-- What stands between the brackets is read as a link exactly if it is the body of that link and the
link is readable. -/
theorem ofBody?_eq_some_iff
    (body : List Char)
    (link : EntityLink) :
    ofBody? body = some link ↔ link.bodyChars = body ∧ link.Readable := by
  constructor
  · intro found
    unfold ofBody? at found
    split at found
    · nomatch found
    · next nonempty =>
      split at found
      · next uncut =>
        cases found
        rw [readable_ofTable, bodyChars, String.toList_ofList]
        exact ⟨rfl, mt List.isEmpty_iff.mpr nonempty,
          (Text.splitAt?_eq_none_iff separator_ne_nil).mp uncut⟩
      · next table column cut =>
        split at found
        · nomatch found
        · next named =>
          cases found
          obtain ⟨rfl, absent⟩ := (Text.splitAt?_eq_some_iff separator_ne_nil).mp cut
          simp only [Bool.or_eq_true, List.isEmpty_iff, not_or] at named
          rw [readable_ofColumn, bodyChars]
          dsimp only
          rw [String.toList_ofList, String.toList_ofList]
          exact ⟨rfl, named.1, named.2, absent⟩
  · rintro ⟨rfl, readable⟩
    obtain ⟨table, column⟩ := link
    cases column with
    | none =>
        obtain ⟨named, absent⟩ := (readable_ofTable table).mp readable
        have uncut := (Text.splitAt?_eq_none_iff separator_ne_nil).mpr absent
        rw [bodyChars, ofBody?, if_neg (mt List.isEmpty_iff.mp named), uncut]
        dsimp only
        rw [String.ofList_toList]
    | some column =>
        obtain ⟨tableNamed, columnNamed, absent⟩ := (readable_ofColumn table column).mp readable
        have cut : Text.splitAt? separator (table.toList ++ separator ++ column.toList) =
            some (table.toList, column.toList) :=
          (Text.splitAt?_eq_some_iff separator_ne_nil).mpr ⟨rfl, absent⟩
        have nonempty : table.toList ++ separator ++ column.toList ≠ [] := by simp [tableNamed]
        have named : ¬ (table.toList.isEmpty || column.toList.isEmpty) = true := by
          simp [tableNamed, columnNamed, List.isEmpty_iff]
        unfold bodyChars ofBody?
        dsimp only
        rw [if_neg (mt List.isEmpty_iff.mp nonempty), cut]
        dsimp only
        rw [if_neg named, String.ofList_toList, String.ofList_toList]

/-- A text is read by what stands between the opening and the closing bracket. -/
theorem read?_eq_some_iff_body
    (text : String)
    (link : EntityLink) :
    read? text = some link ↔
      ∃ body, text.toList = opening ++ body ++ ['>'] ∧ ofBody? body = some link := by
  constructor
  · intro found
    unfold read? at found
    split at found
    · nomatch found
    · next rest begins =>
      split at found
      · nomatch found
      · next body ends =>
        refine ⟨body, ?_, found⟩
        rw [Text.afterStart?_eq_some.mp begins, Text.beforeEnd?_eq_some.mp ends,
          List.append_assoc]
  · rintro ⟨body, spelled, found⟩
    rw [List.append_assoc] at spelled
    rw [read?, Text.afterStart?_eq_some.mpr spelled]
    dsimp only
    rw [Text.beforeEnd?_eq_some.mpr rfl]
    exact found

/-- A text is read as a link exactly if it is the text of that link and the link is readable. -/
theorem read?_eq_some_iff
    (text : String)
    (link : EntityLink) :
    read? text = some link ↔ link.display = text ∧ link.Readable := by
  rw [read?_eq_some_iff_body, display, displayChars_eq]
  constructor
  · rintro ⟨body, spelled, found⟩
    obtain ⟨rfl, readable⟩ := (ofBody?_eq_some_iff body link).mp found
    exact ⟨by rw [← spelled, String.ofList_toList], readable⟩
  · rintro ⟨rfl, readable⟩
    exact ⟨link.bodyChars, String.toList_ofList,
      (ofBody?_eq_some_iff _ link).mpr ⟨rfl, readable⟩⟩

/-- What a text is read as is displayed as that text again. A link is read back from its own text
exactly if it is readable; the text of any other link is refused, or read as a different link. -/
theorem links_read_back_iff_readable :
    (∀ text link, read? text = some link → link.display = text) ∧
      (∀ link : EntityLink, read? link.display = some link ↔ link.Readable) ∧
        ∀ link : EntityLink, ¬ link.Readable →
          read? link.display = none ∨
            ∃ other, other ≠ link ∧ read? link.display = some other := by
  have readsBack : ∀ link : EntityLink, read? link.display = some link ↔ link.Readable :=
    fun link => (read?_eq_some_iff _ link).trans (and_iff_right rfl)
  refine ⟨fun text link found => ((read?_eq_some_iff text link).mp found).1, readsBack, ?_⟩
  intro link unreadable
  cases found : read? link.display with
  | none => exact .inl rfl
  | some other =>
      refine .inr ⟨other, ?_, rfl⟩
      rintro rfl
      exact unreadable ((readsBack other).mp found)

/-- The separator that a table name begins and the separator behind it completes is the one found. -/
theorem links_read_back_iff_readable_on_overlap :
    ¬ Readable ⟨"t::columns", some "c"⟩ ∧
      (read? (display ⟨"t::columns", some "c"⟩) = none ∨
        ∃ other, other ≠ ⟨"t::columns", some "c"⟩ ∧
          read? (display ⟨"t::columns", some "c"⟩) = some other) ∧
        read? (display ⟨"t::columns", some "c"⟩) = some ⟨"t", some "columns::c"⟩ := by
  have unreadable : ¬ Readable ⟨"t::columns", some "c"⟩ := by decide
  exact ⟨unreadable, links_read_back_iff_readable.2.2 _ unreadable, by decide +kernel⟩

end EntityLink
end CatalogIngest
