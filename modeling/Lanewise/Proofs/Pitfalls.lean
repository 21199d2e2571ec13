import Lanewise.Profile

namespace Lanewise

namespace Pitfalls

variable {set kinds first second : Pitfalls} {bit : Nat}

def has (set : Pitfalls) (bit : Nat) : Bool := set.bits.toBitVec.getLsbD bit

instance : HasSubset Pitfalls := ⟨fun first second => ∀ bit, first.has bit → second.has bit⟩

theorem eq_of_has (same : ∀ bit, first.has bit = second.has bit) : first = second := by
  obtain ⟨first⟩ := first
  obtain ⟨second⟩ := second
  rw [Pitfalls.mk.injEq, ← UInt32.toBitVec_inj]
  exact BitVec.eq_of_getLsbD_eq fun bit _ => same bit

@[simp] theorem has_empty (bit : Nat) : empty.has bit = false := by
  simp [has, empty]

@[simp] theorem has_union : (first.union second).has bit = (first.has bit || second.has bit) := by
  simp [has, union]

theorem has_known : set.known.has bit = (set.has bit && kindMask.has bit) := by
  simp [has, known]

theorem subset_trans {third : Pitfalls} (lower : first ⊆ second) (upper : second ⊆ third) :
    first ⊆ third :=
  fun bit member => upper bit (lower bit member)

theorem subset_refl (set : Pitfalls) : set ⊆ set := fun _ member => member

theorem contains_iff : set.contains kinds ↔ kinds ⊆ set := by
  have both : set.contains kinds ↔ (⟨set.bits &&& kinds.bits⟩ : Pitfalls) = kinds := by
    rw [contains, beq_iff_eq]
    exact ⟨congrArg mk, congrArg bits⟩
  have shared (bit : Nat) :
      (⟨set.bits &&& kinds.bits⟩ : Pitfalls).has bit = (set.has bit && kinds.has bit) := by
    simp [has]
  rw [both]
  constructor
  · intro same bit member
    rw [← same, shared, Bool.and_eq_true] at member
    exact member.1
  · intro subset
    refine eq_of_has fun bit => ?_
    rw [shared]
    cases member : kinds.has bit with
    | false => simp
    | true => simp [subset bit member]

instance : DecidableRel fun first second : Pitfalls => first ⊆ second :=
  fun _ _ => decidable_of_iff _ contains_iff

theorem subset_empty_iff : kinds ⊆ empty ↔ kinds = empty := by
  constructor
  · intro subset
    refine eq_of_has fun bit => ?_
    cases member : kinds.has bit with
    | false => simp
    | true => simpa using subset bit member
  · rintro rfl bit member
    exact member

theorem union_eq (subset : kinds ⊆ set) : set.union kinds = set := by
  refine eq_of_has fun bit => ?_
  rw [has_union]
  cases member : kinds.has bit with
  | false => simp
  | true => simp [subset bit member]

theorem union_subset (first_subset : first ⊆ set) (second_subset : second ⊆ set) :
    first.union second ⊆ set := by
  intro bit member
  rw [has_union, Bool.or_eq_true] at member
  exact member.elim (first_subset bit) (second_subset bit)

theorem known_eq (named : set ⊆ kindMask) : set.known = set := by
  refine eq_of_has fun bit => ?_
  rw [has_known]
  cases member : set.has bit with
  | false => simp
  | true => simp [named bit member]

theorem known_subset : set.known ⊆ kindMask := by
  intro bit member
  rw [has_known, Bool.and_eq_true] at member
  exact member.2

theorem kind_subset : ∀ kind ∈ Pitfalls.kinds, kind.2 ⊆ kindMask := by decide

theorem relevant_subset (isa : Isa) : isa.relevantPitfalls ⊆ kindMask := by
  rw [← contains_iff]
  cases isa <;> decide

theorem union_empty (set : Pitfalls) : set.union empty = set :=
  eq_of_has fun bit => by simp

theorem empty_union (set : Pitfalls) : empty.union set = set :=
  eq_of_has fun bit => by simp

theorem union_assoc (first second third : Pitfalls) :
    (first.union second).union third = first.union (second.union third) :=
  eq_of_has fun bit => by simp [Bool.or_assoc]

theorem subset_union_left : first ⊆ first.union second := fun bit member => by simp [member]

theorem subset_union_right : second ⊆ first.union second := fun bit member => by simp [member]

def unionOf (sets : List Pitfalls) : Pitfalls := sets.foldr union empty

theorem has_unionOf {sets : List Pitfalls} :
    (unionOf sets).has bit ↔ ∃ set ∈ sets, set.has bit := by
  induction sets with
  | nil => simp [unionOf]
  | cons set sets ih => simpa [unionOf] using or_congr_right ih

theorem unionOf_append (sets more : List Pitfalls) :
    unionOf (sets ++ more) = (unionOf sets).union (unionOf more) := by
  refine eq_of_has fun bit => ?_
  rw [Bool.eq_iff_iff, has_unionOf, has_union, Bool.or_eq_true, has_unionOf, has_unionOf]
  simp [or_and_right, exists_or]

theorem unionOf_append_singleton (sets : List Pitfalls) (last : Pitfalls) :
    unionOf (sets ++ [last]) = (unionOf sets).union last := by
  refine eq_of_has fun bit => ?_
  rw [Bool.eq_iff_iff, has_unionOf, has_union, Bool.or_eq_true, has_unionOf]
  simp [or_and_right, exists_or]

end Pitfalls

end Lanewise
