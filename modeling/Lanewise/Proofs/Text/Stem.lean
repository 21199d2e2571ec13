import Lanewise.Proofs.Names
import Lanewise.Text.Basic

namespace Lanewise.Text

variable {text first second : String} {α : Type}

theorem startsWith_iff {stem : String} : startsWith text stem ↔ stem.toList <+: text.toList :=
  List.isPrefixOf_iff_prefix

theorem startsWith_append (stem rest : String) : startsWith (stem ++ rest) stem := by
  rw [startsWith_iff, String.toList_append]
  exact List.prefix_append _ _

theorem startsWith_trans (outer : startsWith text first) (inner : startsWith first second) :
    startsWith text second :=
  startsWith_iff.2 ((startsWith_iff.1 inner).trans (startsWith_iff.1 outer))

theorem afterStem?_eq_some_iff {stem rest : String} :
    afterStem? stem text = some rest ↔ text = stem ++ rest := by
  rw [afterStem?, Option.map_eq_some_iff]
  constructor
  · rintro ⟨chars, split, rfl⟩
    have whole := List.append_eq_of_isPrefixOf?_eq_some split
    rw [String.ext_iff, String.toList_append, String.toList_ofList, whole]
  · rintro rfl
    refine ⟨rest.toList, ?_, String.ofList_toList⟩
    rw [List.isPrefixOf?_eq_some_iff_append_eq, String.toList_append]

def diverge (first second : String) : Bool :=
  !startsWith first second && !startsWith second first

theorem not_both_of_diverge (apart : diverge first second) :
    ¬(startsWith text first ∧ startsWith text second) := by
  rintro ⟨begins, again⟩
  have comparable :=
    List.prefix_or_prefix_of_prefix (startsWith_iff.1 begins) (startsWith_iff.1 again)
  simp only [← startsWith_iff] at comparable
  rcases comparable with inner | inner <;> simp [diverge, inner] at apart

theorem stems_unique {table : List (String × α)}
    (apart : table.Pairwise fun row other => diverge row.1 other.1) (text : String) :
    table.Pairwise fun row other => ¬(startsWith text row.1 ∧ startsWith text other.1) :=
  apart.imp fun diverges => not_both_of_diverge diverges

theorem find?_stem_eq_some_iff {table : List (String × α)}
    (apart : table.Pairwise fun row other => diverge row.1 other.1) {row : String × α} :
    table.find? (fun row => startsWith text row.1) = some row ↔
      row ∈ table ∧ startsWith text row.1 :=
  find?_eq_some_iff_of_unique (stems_unique apart text)

theorem splitAt_intercalate {mark : Char} {items : List String} (filled : items ≠ [])
    (unmarked : ∀ item ∈ items, mark ∉ item.toList) :
    splitAt mark (String.intercalate (String.singleton mark) items) = items := by
  rw [splitAt, String.toList_intercalate, String.toList_singleton, List.splitOn_intercalate,
    List.map_map]
  · simp [Function.comp_def]
  · simpa using unmarked
  · simpa using filled

end Lanewise.Text
