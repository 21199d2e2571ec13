import Lanewise.Proofs.Arena.History
import Mathlib.Algebra.BigOperators.Group.Finset.Basic

namespace Lanewise

namespace Arena

variable {κ α : Type} [DecidableEq κ]

theorem pairwise_idxOf_eraseDups (kinds : List κ) :
    kinds.eraseDups.Pairwise fun first second => kinds.idxOf first < kinds.idxOf second := by
  induction kinds using List.reverseRecOn with
  | nil => exact List.Pairwise.nil
  | append_singleton kinds kind ih =>
      have kept : ∀ listed ∈ kinds.eraseDups,
          (kinds ++ [kind]).idxOf listed = kinds.idxOf listed :=
        fun listed member => List.idxOf_append_of_mem (List.mem_eraseDups.1 member)
      rw [List.eraseDups_append, List.pairwise_append]
      refine ⟨ih.imp_of_mem fun {first second} member member' before => ?_, ?_, ?_⟩
      · rwa [kept first member, kept second member']
      · by_cases repeated : kind ∈ kinds <;>
          simp [List.removeAll, repeated, List.eraseDups_cons]
      · intro first member second fresh
        have last : second ∈ [kind].removeAll kinds := List.mem_eraseDups.1 fresh
        obtain ⟨rfl, absent⟩ : second = kind ∧ second ∉ kinds := by
          simpa [List.removeAll] using last
        rw [kept first member, List.idxOf_append_of_notMem absent]
        have inside := List.idxOf_lt_length_of_mem (List.mem_eraseDups.1 member)
        exact Nat.lt_of_lt_of_le inside (Nat.le_add_right _ _)

variable [Hashable κ]

namespace Holds

variable {arena : Arena κ α} {objects : List (κ × α)}

theorem count_pos_iff (holds : arena.Holds objects) {kind : κ} :
    0 < arena.count kind ↔ kind ∈ objects.map (·.1) := by
  rw [holds.count, List.countP_pos_iff]
  simp

theorem total_eq_sum (holds : arena.Holds objects) {all : Finset κ}
    (covered : ∀ kind, 0 < arena.count kind → kind ∈ all) :
    arena.total = ∑ kind ∈ all, arena.count kind := by
  have listed : ∀ kind ∈ (objects.map (·.1) : Multiset κ), kind ∈ all :=
    fun kind member => covered kind (holds.count_pos_iff.2 (Multiset.mem_coe.1 member))
  calc arena.total = objects.length := holds.total
    _ = ∑ kind ∈ all, (objects.map (·.1)).count kind := by
        have sum := Multiset.sum_count_eq_card listed
        simpa using sum.symm
    _ = ∑ kind ∈ all, arena.count kind := by
        refine Finset.sum_congr rfl fun kind _ => ?_
        rw [holds.count, List.count, List.countP_map]
        exact List.countP_congr fun object _ => by simp

theorem kinds (holds : arena.Holds objects) : arena.kinds = arena.order := by
  rw [Arena.kinds, List.filter_eq_self]
  intro kind member
  exact (holds.shelved kind).2 (holds.mem_order_iff.1 member)

end Holds

theorem counts_agree (history : List (Op κ α)) :
    let arena := after history
    let live := pending history
    (∀ kind, arena.count kind = live.countP (·.1 = kind)) ∧
    arena.total = live.length ∧
    (∀ all : Finset κ, (∀ kind, 0 < arena.count kind → kind ∈ all) →
      arena.total = ∑ kind ∈ all, arena.count kind) ∧
    (arena.isEmpty ↔ arena.total = 0) ∧
    arena.kinds.Nodup ∧
    (∀ kind, kind ∈ arena.kinds ↔ 0 < arena.count kind) ∧
    (arena.kinds.Pairwise fun first second =>
      (live.map (·.1)).idxOf first < (live.map (·.1)).idxOf second) ∧
    arena.kinds = arena.order ∧
    arena.shelves.keys.Perm arena.order ∧
    ∀ kind, kind ∈ arena.shelves ↔ kind ∈ arena.order := by
  intro arena live
  have holds : arena.Holds live := holds_after history
  refine ⟨holds.count, holds.total, fun all covered => holds.total_eq_sum covered, ?_, ?_, ?_, ?_,
    holds.kinds, holds.keys_perm, ?_⟩
  · rw [holds.isEmpty_iff, holds.total, List.length_eq_zero_iff]
  · rw [holds.kinds]
    exact holds.nodup_order
  · intro kind
    rw [holds.kinds, holds.mem_order_iff, holds.count_pos_iff]
  · rw [holds.kinds, holds.order]
    exact pairwise_idxOf_eraseDups _
  · intro kind
    rw [holds.shelved, holds.mem_order_iff]

end Arena

end Lanewise
