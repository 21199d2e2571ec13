import Lanewise.Cost
import Mathlib.Algebra.BigOperators.Group.Multiset.Basic
import Mathlib.Algebra.Order.BigOperators.Group.Multiset
import Mathlib.Data.Multiset.Replicate

namespace Lanewise

namespace Cost

variable {estimate nested : Cost} {constructs others : Multiset Construct} {n bound : Nat}

theorem saturate_add_saturate (a b : Nat) :
    saturate (saturate a + saturate b) = saturate (a + b) := by
  unfold saturate
  omega

theorem saturate_mono {a b : Nat} (below : a ≤ b) : saturate a ≤ saturate b :=
  min_le_min le_rfl below

theorem saturate_le_iff (small : bound < limit) : saturate n ≤ bound ↔ n ≤ bound := by
  unfold saturate
  omega

theorem le_saturate_iff (small : bound ≤ limit) : bound ≤ saturate n ↔ bound ≤ n := by
  unfold saturate
  omega

def weightOf (constructs : Multiset Construct) : Nat := (constructs.map Construct.weight).sum

theorem weightOf_add (constructs others : Multiset Construct) :
    weightOf (constructs + others) = weightOf constructs + weightOf others := by
  simp [weightOf]

theorem weightOf_replicate (count : Nat) (construct : Construct) :
    weightOf (Multiset.replicate count construct) = construct.weight * count := by
  simp [weightOf, Nat.mul_comm]

theorem weightOf_mono (part : constructs ≤ others) : weightOf constructs ≤ weightOf others := by
  obtain ⟨rest, rfl⟩ := Multiset.le_iff_exists_add.1 part
  rw [weightOf_add]
  exact Nat.le_add_right _ _

/-- An estimate is the saturated weight of these constructs. -/
def Holds (estimate : Cost) (constructs : Multiset Construct) : Prop :=
  estimate.total = saturate (weightOf constructs)

theorem holds_zero : zero.Holds 0 := rfl

theorem Holds.add (holds : estimate.Holds constructs) (construct : Construct) (count : UInt32) :
    (estimate.add construct count).Holds
      (constructs + Multiset.replicate count.toNat construct) := by
  unfold Holds at *
  rw [weightOf_add, weightOf_replicate, ← saturate_add_saturate, ← holds]
  rfl

theorem Holds.merge (holds : estimate.Holds constructs) (held : nested.Holds others) :
    (estimate.merge nested).Holds (constructs + others) := by
  unfold Holds at *
  rw [weightOf_add, ← saturate_add_saturate, ← holds, ← held]
  rfl

theorem Holds.foldl (holds : estimate.Holds constructs) (more : List Construct) :
    (more.foldl (fun estimate construct => estimate.add construct 1) estimate).Holds
      (constructs + more) := by
  induction more generalizing estimate constructs with
  | nil => simpa using holds
  | cons construct more ih =>
      have added : (estimate.add construct 1).Holds (constructs + {construct}) :=
        holds.add construct 1
      have all := ih added
      rwa [add_assoc, Multiset.singleton_add, Multiset.cons_coe] at all

theorem holds_ofList (constructs : List Construct) : (ofList constructs).Holds constructs := by
  simpa [ofList] using holds_zero.foldl constructs

theorem Holds.congr (holds : estimate.Holds constructs) (held : nested.Holds constructs) :
    estimate = nested := by
  cases estimate
  cases nested
  exact congrArg Cost.mk (holds.trans held.symm)

theorem Holds.allowsPredication_iff (holds : estimate.Holds constructs) :
    estimate.allowsPredication ↔ weightOf constructs ≤ 6 := by
  rw [allowsPredication, decide_eq_true_eq, holds]
  exact saturate_le_iff (by decide)

theorem Holds.allowsBothOperands_iff (holds : estimate.Holds constructs) :
    estimate.allowsBothOperands ↔ weightOf constructs ≤ 10 := by
  rw [allowsBothOperands, decide_eq_true_eq, holds]
  exact saturate_le_iff (by decide)

theorem Holds.testsMask_iff (holds : estimate.Holds constructs) :
    estimate.testsMask ↔ 16 ≤ weightOf constructs := by
  rw [testsMask, decide_eq_true_eq, holds]
  exact le_saturate_iff (by decide)

end Cost

namespace CostRegisters

open Cost (Holds weightOf)

variable {registers : CostRegisters} {contents : Nat → Multiset Construct} {register : Nat}
  {folds folds' : List CostStep}

def foldStep (contents : Nat → Multiset Construct) : CostStep → Nat → Multiset Construct
  | .add register construct count => Function.update contents register
      (contents register + Multiset.replicate count.toNat construct)
  | .merge register source => Function.update contents register
      (contents register + contents source)
  | .collect register constructs => Function.update contents register constructs

def folded (steps : List CostStep) : Nat → Multiset Construct := steps.foldl foldStep fun _ => 0

theorem set_holds (holds : ∀ register, (registers register).Holds (contents register))
    {estimate : Cost} {constructs : Multiset Construct} (held : estimate.Holds constructs)
    (register other : Nat) : (registers.set register estimate other).Holds
      (Function.update contents register constructs other) := by
  rw [set, Function.update_apply]
  split
  · exact held
  · exact holds other

theorem step_holds (holds : ∀ register, (registers register).Holds (contents register))
    (step : CostStep) (register : Nat) :
    (registers.step step register).Holds (foldStep contents step register) := by
  cases step with
  | add target construct count => exact set_holds holds ((holds target).add construct count) _ _
  | merge target source => exact set_holds holds ((holds target).merge (holds source)) _ _
  | collect target constructs => exact set_holds holds (Cost.holds_ofList constructs) _ _

theorem run_holds (steps : List CostStep) (register : Nat) :
    (run steps register).Holds (folded steps register) := by
  have along : ∀ (registers : CostRegisters) contents,
      (∀ register, (registers register).Holds (contents register)) → ∀ register,
        (steps.foldl step registers register).Holds (steps.foldl foldStep contents register) := by
    induction steps with
    | nil => exact fun _ _ holds => holds
    | cons first steps ih => exact fun _ _ holds => ih _ _ (step_holds holds first)
  exact along _ _ (fun _ => Cost.holds_zero) register

theorem folded_concat (steps : List CostStep) (step : CostStep) :
    folded (steps ++ [step]) = foldStep (folded steps) step := by
  rw [folded, List.foldl_append]
  rfl

theorem le_foldStep (contents : Nat → Multiset Construct) {step : CostStep}
    (keeps : ∀ constructs, step ≠ .collect register constructs) :
    contents register ≤ foldStep contents step register := by
  cases step with
  | add target _ _ | merge target _ =>
      rw [foldStep, Function.update_apply]
      split
      · rename_i same
        rw [same]
        exact Multiset.le_add_right _ _
      · exact le_rfl
  | collect target constructs =>
      have differs : register ≠ target := fun same => keeps constructs (same ▸ rfl)
      rw [foldStep, Function.update_of_ne differs]

inductive FoldsInto (register : Nat) : CostStep → Prop
  | add (construct : Construct) (count : UInt32) :
      FoldsInto register (.add register construct count)
  | merge {source : Nat} (elsewhere : source ≠ register) :
      FoldsInto register (.merge register source)

theorem FoldsInto.exists_contribution {step : CostStep} (into : FoldsInto register step) :
    ∃ contribution : (Nat → Multiset Construct) → Multiset Construct,
      (∀ contents, foldStep contents step =
        Function.update contents register (contents register + contribution contents)) ∧
      ∀ contents constructs,
        contribution (Function.update contents register constructs) = contribution contents := by
  cases into with
  | add construct count =>
      exact ⟨fun _ => Multiset.replicate count.toNat construct, fun _ => rfl, fun _ _ => rfl⟩
  | @merge source elsewhere =>
      exact ⟨fun contents => contents source, fun _ => rfl,
        fun _ _ => Function.update_of_ne elsewhere _ _⟩

theorem foldStep_comm {first second : CostStep} (into : FoldsInto register first)
    (into' : FoldsInto register second) (contents : Nat → Multiset Construct) :
    foldStep (foldStep contents first) second = foldStep (foldStep contents second) first := by
  obtain ⟨add, step_eq, same⟩ := into.exists_contribution
  obtain ⟨add', step_eq', same'⟩ := into'.exists_contribution
  rw [step_eq, step_eq', step_eq', step_eq, same, same', Function.update_idem,
    Function.update_idem, Function.update_self, Function.update_self, add_right_comm]

theorem folded_perm (steps : List CostStep) (permuted : folds.Perm folds')
    (into : ∀ step ∈ folds, FoldsInto register step) :
    folded (steps ++ folds) = folded (steps ++ folds') := by
  rw [folded, folded, List.foldl_append, List.foldl_append]
  refine permuted.foldl_eq' (fun first listed second listed' contents => ?_) _
  exact foldStep_comm (into first listed) (into second listed') contents

theorem run_saturates (steps : List CostStep) :
    (∀ register, (run steps register).total = min (2 ^ 32 - 1) (weightOf (folded steps register))) ∧
    (∀ register step, (∀ constructs, step ≠ .collect register constructs) →
      (run steps register).total ≤ (run (steps ++ [step]) register).total) ∧
    (∀ register others other, folded others other = folded steps register →
      run others other = run steps register) ∧
    (∀ register folds folds', folds.Perm folds' → (∀ step ∈ folds, FoldsInto register step) →
      run (steps ++ folds') = run (steps ++ folds)) ∧
    ∀ register,
      ((run steps register).allowsPredication ↔ weightOf (folded steps register) ≤ 6) ∧
      ((run steps register).allowsBothOperands ↔ weightOf (folded steps register) ≤ 10) ∧
      ((run steps register).testsMask ↔ 16 ≤ weightOf (folded steps register)) := by
  refine ⟨run_holds steps, ?_, ?_, ?_, fun register => ?_⟩
  · intro register step keeps
    have grows : folded steps register ≤ folded (steps ++ [step]) register := by
      rw [folded_concat]
      exact le_foldStep _ keeps
    rw [run_holds, run_holds]
    exact Cost.saturate_mono (Cost.weightOf_mono grows)
  · intro register others other same
    exact (same ▸ run_holds others other).congr (run_holds steps register)
  · intro register folds folds' permuted into
    funext other
    have same := folded_perm steps permuted into
    exact (run_holds (steps ++ folds') other).congr (same ▸ run_holds (steps ++ folds) other)
  · have holds := run_holds steps register
    exact ⟨holds.allowsPredication_iff, holds.allowsBothOperands_iff, holds.testsMask_iff⟩

/-- An estimate that is merged into itself counts twice, up to the largest number. -/
example : (run [.add 0 .new 100000000, .merge 0 0] 0).total = 4294967295 := by decide

end CostRegisters

end Lanewise
