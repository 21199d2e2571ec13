import Lanewise.Proofs.Pitfalls
import Mathlib.Data.List.Basic

namespace Lanewise

namespace Pitfalls

variable {set kinds first second : Pitfalls} {bit : Nat}

theorem subset_known_iff (named : kinds ⊆ kindMask) : kinds ⊆ set.known ↔ kinds ⊆ set := by
  refine forall_congr' fun bit => forall_congr' fun member => ?_
  simp [has_known, named bit member]

theorem has_iff_of_twoPow {bit : Fin 32} (single : set.bits.toBitVec = BitVec.twoPow 32 bit)
    (place : Nat) : set.has place ↔ place = bit := by
  simp [has, single, BitVec.getLsbD_twoPow, eq_comm]

theorem exists_bit {kind : String × Pitfalls} (listed : kind ∈ Pitfalls.kinds) :
    ∃ bit, ∀ place, kind.2.has place ↔ place = bit := by
  have table : ∀ kind ∈ Pitfalls.kinds,
      ∃ bit : Fin 32, kind.2.bits.toBitVec = BitVec.twoPow 32 bit := by decide
  obtain ⟨bit, single⟩ := table kind listed
  exact ⟨bit, has_iff_of_twoPow single⟩

theorem exists_kind_at (named : kindMask.has bit) :
    ∃ kind ∈ Pitfalls.kinds, ∀ place, kind.2.has place ↔ place = bit := by
  have table : ∀ bit : Fin 32, kindMask.has bit →
      ∃ kind ∈ Pitfalls.kinds, kind.2.bits.toBitVec = BitVec.twoPow 32 bit := by decide
  have small : bit < 32 := BitVec.lt_of_getLsbD named
  obtain ⟨kind, listed, single⟩ := table ⟨bit, small⟩ named
  exact ⟨kind, listed, has_iff_of_twoPow single⟩

theorem exists_kind_of_not_subset (named : first ⊆ kindMask) (fresh : ¬first ⊆ second) :
    ∃ kind ∈ Pitfalls.kinds, kind.2 ⊆ first ∧ ¬kind.2 ⊆ second := by
  obtain ⟨bit, fresh⟩ := Classical.not_forall.1 fresh
  obtain ⟨member, absent⟩ := Classical.not_imp.1 fresh
  obtain ⟨kind, listed, single⟩ := exists_kind_at (named bit member)
  refine ⟨kind, listed, fun place inside => (single place).1 inside ▸ member, fun inside => ?_⟩
  exact absent (inside bit ((single bit).2 rfl))

def kindCount (set : Pitfalls) : Nat := (Pitfalls.kinds.filter (·.2 ⊆ set)).length

theorem kindCount_le (set : Pitfalls) : set.kindCount ≤ Pitfalls.kinds.length :=
  List.length_filter_le _ _

theorem kindCount_lt (grows : first ⊆ second) {kind : String × Pitfalls}
    (listed : kind ∈ Pitfalls.kinds) (inside : kind.2 ⊆ second) (absent : ¬kind.2 ⊆ first) :
    first.kindCount < second.kindCount := by
  have kept : (Pitfalls.kinds.filter (·.2 ⊆ first)).Sublist
      (Pitfalls.kinds.filter (·.2 ⊆ second)) := by
    apply List.monotone_filter_right
    simpa using fun kind member => subset_trans member grows
  refine Nat.lt_of_le_of_ne kept.length_le fun same => ?_
  have gained : kind ∈ Pitfalls.kinds.filter (·.2 ⊆ second) := by simp [listed, inside]
  rw [← kept.eq_of_length same] at gained
  simp [absent] at gained

theorem subset_unionOf {sets : List Pitfalls} (member : set ∈ sets) : set ⊆ unionOf sets :=
  fun _ inside => has_unionOf.2 ⟨set, member, inside⟩

theorem unionOf_mono {sets more : List Pitfalls} (listed : sets ⊆ more) :
    unionOf sets ⊆ unionOf more := by
  intro bit member
  obtain ⟨set, inside, has_bit⟩ := has_unionOf.1 member
  exact has_unionOf.2 ⟨set, listed inside, has_bit⟩

theorem exists_of_subset_unionOf {sets : List Pitfalls} {kind : String × Pitfalls}
    (listed : kind ∈ Pitfalls.kinds) (inside : kind.2 ⊆ unionOf sets) :
    ∃ set ∈ sets, kind.2 ⊆ set := by
  obtain ⟨bit, single⟩ := exists_bit listed
  obtain ⟨set, member, has_bit⟩ := has_unionOf.1 (inside bit ((single bit).2 rfl))
  exact ⟨set, member, fun place at_place => (single place).1 at_place ▸ has_bit⟩

/-- Each of these sets names kinds only, and not only such as the sets before it name. -/
inductive Fresh : List Pitfalls → Prop
  | nil : Fresh []
  | snoc {sets : List Pitfalls} {last : Pitfalls} (before : Fresh sets) (named : last ⊆ kindMask)
      (fresh : ¬last ⊆ unionOf sets) : Fresh (sets ++ [last])

namespace Fresh

variable {sets : List Pitfalls}

theorem split (fresh : Fresh sets) {earlier later : List Pitfalls}
    (at_kinds : sets = earlier ++ kinds :: later) :
    kinds ⊆ kindMask ∧ ¬kinds ⊆ unionOf earlier := by
  induction fresh generalizing later with
  | nil => simp at at_kinds
  | snoc before named fresh ih =>
      -- The set in question is the last one, or it stands among those before.
      rcases later.eq_nil_or_concat with rfl | ⟨rest, last, rfl⟩
      · obtain ⟨rfl, same⟩ := List.append_inj' at_kinds rfl
        cases same
        exact ⟨named, fresh⟩
      · rw [List.concat_eq_append, ← List.cons_append, ← List.append_assoc] at at_kinds
        exact ih (List.append_inj' at_kinds rfl).1

theorem pairwise (fresh : Fresh sets) : sets.Pairwise fun earlier later => ¬later ⊆ earlier := by
  induction fresh with
  | nil => exact .nil
  | snoc before named fresh ih =>
      refine List.pairwise_append.2 ⟨ih, List.pairwise_singleton _ _, ?_⟩
      simp only [List.mem_singleton, forall_eq]
      exact fun earlier member inside => fresh (subset_trans inside (subset_unionOf member))

theorem length_le (fresh : Fresh sets) : sets.length ≤ (unionOf sets).kindCount := by
  induction fresh with
  | nil => exact Nat.zero_le _
  | @snoc sets last before named fresh ih =>
      -- The last set has a kind that the others lack, so that one more kind is taken.
      obtain ⟨kind, listed, inside, absent⟩ := exists_kind_of_not_subset named fresh
      have grows : (unionOf sets).kindCount < (unionOf (sets ++ [last])).kindCount := by
        rw [unionOf_append_singleton]
        refine kindCount_lt ?_ listed ?_ absent
        · exact fun bit member => by simp [member]
        · exact fun bit member => by simp [inside bit member]
      rw [List.length_append, List.length_singleton]
      omega

theorem length_filter_le_one (fresh : Fresh sets) {chosen : Pitfalls → Bool}
    (narrowing : (sets.filter chosen).Pairwise fun earlier later => later ⊆ earlier) :
    (sets.filter chosen).length ≤ 1 := by
  have widening := fresh.pairwise.filter chosen
  match found : sets.filter chosen with
  | [] => exact Nat.zero_le 1
  | [_] => exact Nat.le_refl 1
  | first :: second :: _ =>
      rw [found] at narrowing widening
      exact absurd (List.rel_of_pairwise_cons narrowing (List.mem_cons_self ..))
        (List.rel_of_pairwise_cons widening (List.mem_cons_self ..))

end Fresh

end Pitfalls

end Lanewise
