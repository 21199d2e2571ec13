import Lanewise.DataLayout
import Mathlib.Data.List.Basic

namespace Lanewise.AlignTable

variable {table : AlignTable} {width other align : UInt32}

def Ascends (table : AlignTable) : Prop :=
  table.Pairwise fun first second => first.1 < second.1

instance : Decidable table.Ascends := inferInstanceAs (Decidable (List.Pairwise _ _))

theorem get?_cons (entry : UInt32 × UInt32) (rest : AlignTable) :
    get? width (entry :: rest) = if entry.1 = width then some entry.2 else get? width rest := by
  by_cases same : entry.1 = width
  · simp [get?, same]
  · simp [get?, same]

theorem mem_of_get? (listed : table.get? width = some align) : (width, align) ∈ table := by
  obtain ⟨entry, found, rfl⟩ := Option.map_eq_some_iff.1 listed
  have same : entry.1 = width := by simpa using List.find?_some found
  exact same ▸ List.mem_of_find?_eq_some found

theorem ceiling?_of_get? (ascends : table.Ascends) (listed : table.get? width = some align) :
    table.ceiling? width = some align := by
  induction table with
  | nil => cases listed
  | cons entry rest ih =>
      obtain ⟨below, ascends⟩ := List.pairwise_cons.1 ascends
      rw [get?_cons] at listed
      split at listed
      · rename_i same
        simp [ceiling?, same, ← listed]
      · -- The width stands further down, so that this entry is too narrow for it.
        have narrow : ¬width ≤ entry.1 :=
          UInt32.not_le.2 (below _ (mem_of_get? listed))
        rw [ceiling?, List.find?_cons_of_neg (by simpa using narrow)]
        exact ih ascends listed

theorem get?_insert (width align other : UInt32) (table : AlignTable) :
    get? other (insert width align table) =
      if width = other then some align else get? other table := by
  induction table with
  | nil => rw [insert, get?_cons]
  | cons entry rest ih =>
      rw [insert]
      split
      · rw [get?_cons]
      · split
        · rename_i same
          rw [get?_cons, get?_cons, ← same]
          split <;> rfl
        · rename_i different
          rw [get?_cons, get?_cons, ih]
          by_cases here : entry.1 = other
          · rw [if_pos here, if_pos here, if_neg fun same => different (same.trans here.symm)]
          · rw [if_neg here, if_neg here]

theorem mem_insert {entry : UInt32 × UInt32} (member : entry ∈ insert width align table) :
    entry = (width, align) ∨ entry ∈ table := by
  induction table with
  | nil => exact .inl (List.mem_singleton.1 member)
  | cons first rest ih =>
      rw [insert] at member
      split at member
      · exact List.mem_cons.1 member
      · split at member
        · exact (List.mem_cons.1 member).imp_right (List.mem_cons_of_mem _)
        · rcases List.mem_cons.1 member with rfl | later
          · exact .inr List.mem_cons_self
          · exact (ih later).imp_right (List.mem_cons_of_mem _)

theorem ascends_insert (ascends : table.Ascends) (width align : UInt32) :
    (insert width align table).Ascends := by
  induction table with
  | nil => exact List.pairwise_singleton _ _
  | cons first rest ih =>
      obtain ⟨below, ascends'⟩ := List.pairwise_cons.1 ascends
      rw [insert]
      split
      · rename_i least
        refine List.pairwise_cons.2 ⟨fun entry member => ?_, ascends⟩
        rcases List.mem_cons.1 member with rfl | later
        · exact least
        · exact UInt32.lt_trans least (below entry later)
      · rename_i covered
        split
        · rename_i same
          exact List.pairwise_cons.2 ⟨fun entry later => same ▸ below entry later, ascends'⟩
        · rename_i different
          refine List.pairwise_cons.2 ⟨fun entry member => ?_, ih ascends'⟩
          rcases mem_insert member with rfl | later
          · exact UInt32.lt_of_le_of_ne (UInt32.not_lt.1 covered) fun same => different same.symm
          · exact below entry later

end Lanewise.AlignTable
