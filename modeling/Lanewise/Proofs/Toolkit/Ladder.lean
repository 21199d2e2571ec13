import Lanewise.Proofs.Toolkit.Intrinsics

namespace Lanewise

variable {features others feature stem name : String}

theorem providesFeature_mono
    (subset : ∀ item ∈ Text.splitAt ',' features, item ∈ Text.splitAt ',' others)
    (provided : providesFeature features feature) : providesFeature others feature := by
  obtain ⟨provider, provides, member⟩ := providesFeature_iff_mem.1 provided
  exact providesFeature_iff_mem.2 ⟨provider, provides, subset provider member⟩

theorem knowsIntrinsic_mono
    (subset : ∀ item ∈ Text.splitAt ',' features, item ∈ Text.splitAt ',' others)
    (knows : knowsIntrinsic features name) : knowsIntrinsic others name := by
  rw [knowsIntrinsic_iff] at knows ⊢
  rcases knows with generic | ⟨stem, feature, listed, begins, provided⟩
  · exact .inl generic
  · exact .inr ⟨stem, feature, listed, begins, providesFeature_mono subset provided⟩

theorem knowsIntrinsic_congr
    (same : ∀ item, item ∈ Text.splitAt ',' features ↔ item ∈ Text.splitAt ',' others)
    (name : String) : knowsIntrinsic features name = knowsIntrinsic others name := by
  apply Bool.eq_iff_iff.2
  constructor
  · exact knowsIntrinsic_mono fun item => (same item).1
  · exact knowsIntrinsic_mono fun item => (same item).2

def ladderStems : List String :=
  ["llvm.x86.sse.", "llvm.x86.sse2.", "llvm.x86.sse41.", "llvm.x86.sse42.", "llvm.x86.avx.",
    "llvm.x86.avx2.", "llvm.x86.avx512."]

theorem exists_rung {rung : Nat} (listed : ladderStems[rung]? = some stem) :
    ∃ feature, (stem, feature) ∈ intrinsicFeatures ∧ providers feature = x86Ladder.drop rung := by
  have rows : ∀ rung : Fin ladderStems.length,
      (ladderStems[rung], x86Ladder[rung]) ∈ intrinsicFeatures ∧
        providers x86Ladder[rung] = x86Ladder.drop rung := by
    decide +kernel
  obtain ⟨inside, rfl⟩ := List.getElem?_eq_some_iff.1 listed
  exact ⟨_, rows ⟨rung, inside⟩⟩

theorem knowsIntrinsic_iff_of_rung {rung : Nat} (listed : ladderStems[rung]? = some stem)
    (begins : Text.startsWith name stem) : knowsIntrinsic features name ↔
      ∃ item ∈ x86Ladder.drop rung, item ∈ Text.splitAt ',' features := by
  obtain ⟨feature, row, provided⟩ := exists_rung listed
  rw [knowsIntrinsic_iff_of_row row begins, providesFeature_iff_mem, provided]

theorem knowsIntrinsic_of_lower {lower upper : Nat} {weaker stronger other : String}
    (le : lower ≤ upper) (listed : ladderStems[lower]? = some weaker)
    (listed' : ladderStems[upper]? = some stronger) (begins : Text.startsWith name stronger)
    (begins' : Text.startsWith other weaker) (knows : knowsIntrinsic features name) :
    knowsIntrinsic features other := by
  obtain ⟨item, above, member⟩ := (knowsIntrinsic_iff_of_rung listed' begins).1 knows
  -- What stands from the upper rung on stands from the lower one on.
  have above' : item ∈ x86Ladder.drop lower := List.drop_subset_drop_left x86Ladder le above
  exact (knowsIntrinsic_iff_of_rung listed begins').2 ⟨item, above', member⟩

theorem intrinsics_by_items (features : String) :
    (∀ spec machine, Toolkit.builtinMachine spec = .ok machine →
      machine.features = spec.features ∧ machine.hasIntrinsic = knowsIntrinsic spec.features) ∧
    (∀ others, (∀ item ∈ Text.splitAt ',' features, item ∈ Text.splitAt ',' others) →
      ∀ name, knowsIntrinsic features name → knowsIntrinsic others name) ∧
    (∀ others, (∀ item, item ∈ Text.splitAt ',' features ↔ item ∈ Text.splitAt ',' others) →
      ∀ name, knowsIntrinsic features name = knowsIntrinsic others name) ∧
    ∀ (lower upper : Nat) (weaker stronger : String), lower ≤ upper →
      ladderStems[lower]? = some weaker → ladderStems[upper]? = some stronger →
        ∀ name other, Text.startsWith name stronger → Text.startsWith other weaker →
          knowsIntrinsic features name → knowsIntrinsic features other := by
  refine ⟨fun spec machine made => ?_, fun others subset name => knowsIntrinsic_mono subset,
    fun others same => knowsIntrinsic_congr same, ?_⟩
  · obtain ⟨_, _, rfl⟩ := builtinMachine_eq_ok.1 made
    exact ⟨rfl, rfl⟩
  · intro lower upper weaker stronger le listed listed' name other begins begins' knows
    exact knowsIntrinsic_of_lower le listed listed' begins begins' knows

end Lanewise
