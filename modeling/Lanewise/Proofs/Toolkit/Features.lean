import Lanewise.Proofs.Text.Stem
import Lanewise.Profile
import Lanewise.Toolkit.Builtin

namespace Lanewise

variable {isa : Isa} {cpu : Cpu} {arch : Arch} {target : VectorTarget} {feature : String}

theorem isaFeatures_of_ne_neon (other : isa ≠ .neon) :
    isaFeatures isa cpu arch = isaFeatures isa .generic .x8664 := by
  cases isa with
  | neon => exact absurd rfl other
  | _ => rfl

theorem comma_not_mem_isaFeatures : ∀ item ∈ isaFeatures isa cpu arch, ',' ∉ item.toList := by
  by_cases neon : isa = .neon
  · rw [neon, isaFeatures]
    split
    · decide
    · cases cpu.has .fp16 <;> cases cpu.has .dotprod <;> cases cpu.has .i8mm <;> decide
  · rw [isaFeatures_of_ne_neon neon]
    have listed : ∀ isa ∈ Isa.all, ∀ item ∈ isaFeatures isa .generic .x8664, ',' ∉ item.toList := by
      decide
    exact listed isa isa.mem_all

theorem isaFeatures_ne_nil : isaFeatures isa cpu arch ≠ [] := by
  cases isa with
  | neon =>
      rw [isaFeatures]
      split <;> simp
  | _ => simp [isaFeatures, sse41Features, avx2Features, skylakeFeatures]

/-- The feature of random numbers goes with the capability, which has a condition of its own. -/
theorem featureList_eq (target : VectorTarget) (cpu : Cpu) (arch : Arch) :
    featureList target.isa cpu arch = isaFeatures target.isa cpu arch ++
      if (Capabilities.of target cpu arch).rand then ["+rdrnd"] else [] :=
  rfl

theorem mem_featureList : feature ∈ featureList target.isa cpu arch ↔
    feature ∈ isaFeatures target.isa cpu arch ∨
      feature = "+rdrnd" ∧ (Capabilities.of target cpu arch).rand := by
  rw [featureList_eq, List.mem_append]
  split <;> simp [*]

theorem comma_not_mem_featureList :
    ∀ item ∈ featureList target.isa cpu arch, ',' ∉ item.toList := by
  intro item member
  rcases mem_featureList.1 member with member | ⟨rfl, -⟩
  · exact comma_not_mem_isaFeatures item member
  · decide

theorem splitAt_features : Text.splitAt ',' (Profile.of target cpu arch).features =
    featureList target.isa cpu arch :=
  Text.splitAt_intercalate (by simp [featureList, isaFeatures_ne_nil]) comma_not_mem_featureList

theorem providesFeature_iff_mem {features : String} : providesFeature features feature ↔
    ∃ provider ∈ providers feature, provider ∈ Text.splitAt ',' features := by
  simp [providesFeature]

theorem providesFeature_iff : providesFeature (Profile.of target cpu arch).features feature ↔
    ∃ provider ∈ providers feature, provider ∈ featureList target.isa cpu arch := by
  rw [providesFeature_iff_mem, splitAt_features]

/-- The x86 instruction set from which on a feature is provided. -/
def featureLevels : List (String × Isa) :=
  [("+sse", .sse2), ("+sse2", .sse2), ("+sse4.1", .sse41), ("+sse4.2", .sse42), ("+avx", .avx),
    ("+avx2", .avx2), ("+f16c", .avx2), ("+avx512f", .avx512knl)]

theorem provided_iff_le : ∀ level ∈ featureLevels, ∀ isa ∈ Isa.all, isa.family = .x86 →
    ((∃ provider ∈ providers level.1, provider ∈ isaFeatures isa .generic .x8664) ↔
      level.2 ≤ isa) := by
  decide +kernel

theorem rdrnd_not_mem_providers : ∀ level ∈ featureLevels, "+rdrnd" ∉ providers level.1 := by
  decide

theorem ne_neon_of_x86 (x86 : isa.family = .x86) : isa ≠ .neon := by
  rintro rfl
  cases x86

theorem providesFeature_iff_le {weakest : Isa} (level : (feature, weakest) ∈ featureLevels)
    (x86 : target.isa.family = .x86) :
    providesFeature (Profile.of target cpu arch).features feature ↔ weakest ≤ target.isa := by
  rw [← provided_iff_le _ level _ target.isa.mem_all x86, providesFeature_iff]
  refine exists_congr fun provider => and_congr_right fun listed => ?_
  rw [mem_featureList, isaFeatures_of_ne_neon (ne_neon_of_x86 x86)]
  refine or_iff_left fun random => ?_
  rw [random.1] at listed
  exact rdrnd_not_mem_providers _ level listed

theorem providesFeature_rdrnd (x86 : target.isa.family = .x86) :
    providesFeature (Profile.of target cpu arch).features "+rdrnd" ↔
      (Capabilities.of target cpu arch).rand := by
  have apart : ∀ isa ∈ Isa.all, "+rdrnd" ∉ isaFeatures isa .generic .x8664 := by decide
  have alone : providers "+rdrnd" = ["+rdrnd"] := by decide
  rw [providesFeature_iff, alone]
  simp [mem_featureList, isaFeatures_of_ne_neon (ne_neon_of_x86 x86), apart _ target.isa.mem_all]

theorem avx512knl_le_iff (x86 : isa.family = .x86) : Isa.avx512knl ≤ isa ↔ isa.isAvx512 := by
  cases isa <;> first | decide | cases x86

theorem family_of_isAvx512 (wide : isa.isAvx512) : isa.family = .x86 := by
  cases isa <;> first | rfl | cases wide

theorem providesFeature_of_mem (listed : feature ∈ isaFeatures target.isa cpu arch) :
    providesFeature (Profile.of target cpu arch).features feature :=
  providesFeature_iff.2 ⟨feature, List.mem_cons_self, mem_featureList.2 (.inl listed)⟩

theorem providesFeature_neon (arm : target.isa.family = .arm) :
    providesFeature (Profile.of target cpu arch).features "+neon" := by
  refine providesFeature_of_mem ?_
  cases isa : target.isa with
  | neon =>
      rw [isaFeatures]
      split <;> simp
  | _ =>
      rw [isa] at arm
      cases arm

theorem providesFeature_simd128 (wasm : target.isa.family = .wasm) :
    providesFeature (Profile.of target cpu arch).features "+simd128" := by
  refine providesFeature_of_mem ?_
  cases isa : target.isa with
  | wasm => exact List.mem_singleton_self _
  | _ =>
      rw [isa] at wasm
      cases wasm

end Lanewise
