import Mathlib.Data.List.Find
import Mathlib.Data.List.Nodup

namespace Lanewise

variable {α β : Type}

theorem find?_eq_some_iff_of_unique {table : List α} {answers : α → Bool}
    (unique : table.Pairwise fun row other => ¬(answers row ∧ answers other)) {row : α} :
    table.find? answers = some row ↔ row ∈ table ∧ answers row := by
  induction table with
  | nil => simp
  | cons first table ih =>
      obtain ⟨alone, later⟩ := List.pairwise_cons.1 unique
      cases answered : answers first with
      | true =>
          rw [List.find?_cons_of_pos answered, Option.some.injEq]
          constructor
          · rintro rfl
            exact ⟨List.mem_cons_self, answered⟩
          · rintro ⟨listed, again⟩
            rcases List.mem_cons.1 listed with rfl | listed
            · rfl
            · exact absurd ⟨answered, again⟩ (alone row listed)
      | false =>
          rw [List.find?_cons_of_neg (by simp [answered]), ih later, List.mem_cons]
          constructor
          · rintro ⟨listed, answers⟩
            exact ⟨.inr listed, answers⟩
          · rintro ⟨rfl | listed, answers⟩
            · rw [answered] at answers
              cases answers
            · exact ⟨listed, answers⟩

theorem countP_le_one_of_unique {table : List α} {answers : α → Bool}
    (unique : table.Pairwise fun row other => ¬(answers row ∧ answers other)) :
    table.countP answers ≤ 1 := by
  induction table with
  | nil => simp
  | cons first table ih =>
      obtain ⟨alone, later⟩ := List.pairwise_cons.1 unique
      cases answered : answers first with
      | true =>
          have others : table.countP answers = 0 :=
            List.countP_eq_zero.2 fun row listed again => alone row listed ⟨answered, again⟩
          rw [List.countP_cons_of_pos answered, others]
      | false =>
          rw [List.countP_cons_of_neg (by simp [answered])]
          exact ih later

theorem find?_of_perm {table shuffled : List α} {answers : α → Bool}
    (unique : table.Pairwise fun row other => ¬(answers row ∧ answers other))
    (perm : table.Perm shuffled) : shuffled.find? answers = table.find? answers := by
  have single : {row ∈ table | answers row}.Subsingleton := by
    intro row answered other again
    have found := (find?_eq_some_iff_of_unique unique).2 answered
    rw [(find?_eq_some_iff_of_unique unique).2 again] at found
    exact (Option.some.inj found).symm
  exact (List.find?_eq_find?_of_perm perm single).symm

theorem injective_of_found {name : α → β} {find? : β → Option α}
    (found : ∀ row, find? (name row) = some row) : Function.Injective name := by
  intro first second same
  have twice := found first
  rw [same, found second] at twice
  exact (Option.some.inj twice).symm

theorem unique_of_apart {table : List α} {names : α → List β} {answers : α → Bool} {name : β}
    (apart : (table.flatMap names).Nodup) (named : ∀ row, answers row → name ∈ names row) :
    table.Pairwise fun row other => ¬(answers row ∧ answers other) := by
  refine (List.nodup_flatMap.1 apart).2.imp fun {row other} disjoint both => ?_
  exact disjoint (named row both.1) (named other both.2)

theorem find?_eq_some_iff_of_apart {table : List α} {names : α → List β} {answers : α → Bool}
    {text : β} (apart : (table.flatMap names).Nodup)
    (answers_iff : ∀ row, answers row ↔ text ∈ names row) {row : α} :
    table.find? answers = some row ↔ row ∈ table ∧ text ∈ names row := by
  have unique := unique_of_apart apart fun row => (answers_iff row).1
  rw [find?_eq_some_iff_of_unique unique, answers_iff]

end Lanewise
