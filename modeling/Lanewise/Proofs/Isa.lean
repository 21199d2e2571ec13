import Lanewise.Isa

namespace Lanewise

namespace Isa

variable {isas : List Isa} {isa : Isa}

theorem rank_injective {a b : Isa} (same : a.rank = b.rank) : a = b := by
  cases a <;> cases b <;> first | rfl | cases same

theorem le_antisymm {a b : Isa} (below : a ≤ b) (above : b ≤ a) : a = b :=
  rank_injective (Nat.le_antisymm below above)

theorem stronger_eq (a b : Isa) : a.stronger b = a ∨ a.stronger b = b := by
  unfold stronger
  split
  · exact .inr rfl
  · exact .inl rfl

theorem le_stronger_left (a b : Isa) : a ≤ a.stronger b := by
  unfold stronger
  split
  · assumption
  · exact Nat.le_refl _

theorem le_stronger_right (a b : Isa) : b ≤ a.stronger b := by
  unfold stronger
  split
  · exact Nat.le_refl _
  · rename_i above
    exact Nat.le_of_not_le above

theorem foldl_stronger_mem (rest : List Isa) (first : Isa) :
    rest.foldl stronger first ∈ first :: rest := by
  induction rest generalizing first with
  | nil => exact List.mem_singleton_self _
  | cons next rest ih =>
      rcases List.mem_cons.1 (ih (first.stronger next)) with taken | later
      · rw [List.foldl_cons, taken]
        rcases stronger_eq first next with same | same <;> simp [same]
      · exact List.mem_cons_of_mem _ (List.mem_cons_of_mem _ later)

theorem le_foldl_stronger (rest : List Isa) (first : Isa) :
    ∀ isa ∈ first :: rest, isa ≤ rest.foldl stronger first := by
  induction rest generalizing first with
  | nil =>
      intro isa member
      rw [List.mem_singleton.1 member]
      exact Nat.le_refl _
  | cons next rest ih =>
      have bound := ih (first.stronger next)
      have top := bound _ List.mem_cons_self
      intro isa member
      rcases List.mem_cons.1 member with rfl | member
      · exact Nat.le_trans (le_stronger_left _ _) top
      · rcases List.mem_cons.1 member with rfl | member
        · exact Nat.le_trans (le_stronger_right _ _) top
        · exact bound isa (List.mem_cons_of_mem _ member)

theorem best?_eq_none_iff : best? isas = none ↔ isas = [] := by
  cases isas <;> simp [best?]

theorem best?_eq_some_iff : best? isas = some isa ↔ isa ∈ isas ∧ ∀ other ∈ isas, other ≤ isa := by
  cases isas with
  | nil => simp [best?]
  | cons first rest =>
      have member := foldl_stronger_mem rest first
      have bound := le_foldl_stronger rest first
      rw [best?, Option.some.injEq]
      constructor
      · rintro rfl
        exact ⟨member, bound⟩
      · rintro ⟨listed, strongest⟩
        exact le_antisymm (strongest _ member) (bound _ listed)

end Isa

end Lanewise
