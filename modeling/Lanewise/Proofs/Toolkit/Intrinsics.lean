import Lanewise.Proofs.Toolkit.Features
import Lanewise.Proofs.Toolkit.Layout

/-!
# Intrinsics of the built-in toolkit

An intrinsic passes three checks: its stem must be open to the family and architecture of the
target, some row of the table of stems must name the feature that it needs, and the features of the
target must provide that feature. Together they come to a rule about the instruction set alone,
apart from random numbers, which the processor has to make.
-/

namespace Lanewise

variable {feature stem name : String}

/-! ## Stems -/

theorem intrinsicFeatures_apart :
    intrinsicFeatures.Pairwise fun row other => Text.diverge row.1 other.1 := by
  decide +kernel

theorem generic_apart : ∀ stem ∈ genericIntrinsics, ∀ row ∈ Target.intrinsicFamilies,
    Text.diverge stem row.1 := by
  decide +kernel

theorem knowsIntrinsic_iff {features : String} : knowsIntrinsic features name ↔
    (∃ stem ∈ genericIntrinsics, Text.startsWith name stem) ∨
      ∃ stem feature, (stem, feature) ∈ intrinsicFeatures ∧ Text.startsWith name stem ∧
        providesFeature features feature := by
  simp only [knowsIntrinsic, isGenericIntrinsic, neededFeature?, Bool.or_eq_true, List.any_eq_true,
    Option.any_map, Option.any_eq_true,
    Text.find?_stem_eq_some_iff intrinsicFeatures_apart, Prod.exists, and_assoc]

theorem knowsIntrinsic_iff_of_row {features : String}
    (listed : (stem, feature) ∈ intrinsicFeatures) (begins : Text.startsWith name stem) :
    knowsIntrinsic features name ↔ providesFeature features feature := by
  have reserved : ∀ row ∈ intrinsicFeatures, ∃ family ∈ Target.intrinsicFamilies,
      Text.startsWith row.1 family.1 := by decide +kernel
  rw [knowsIntrinsic_iff, or_iff_right]
  · constructor
    · rintro ⟨other, needed, listed', begins', provided⟩
      have found := (Text.find?_stem_eq_some_iff intrinsicFeatures_apart).2 ⟨listed, begins⟩
      have again := (Text.find?_stem_eq_some_iff intrinsicFeatures_apart).2 ⟨listed', begins'⟩
      obtain ⟨-, rfl⟩ := Prod.mk.inj (Option.some.inj (found.symm.trans again))
      exact provided
    · exact fun provided => ⟨stem, feature, listed, begins, provided⟩
  · rintro ⟨generic, member, begins'⟩
    obtain ⟨family, listed', inner⟩ := reserved _ listed
    exact Text.not_both_of_diverge (generic_apart generic member family listed')
      ⟨begins', Text.startsWith_trans begins inner⟩

namespace Target

variable {target other : Target} {request : TargetRequest}

theorem intrinsicFamilies_apart :
    intrinsicFamilies.Pairwise fun row other => Text.diverge row.1 other.1 := by
  decide +kernel

theorem admitsIntrinsic_iff {family : IsaFamily} {outer : String}
    (listed : (outer, family) ∈ intrinsicFamilies) (stemmed : Text.startsWith stem outer)
    (begins : Text.startsWith name stem) : target.admitsIntrinsic name ↔
      target.isa.family = family ∧ hostsIntrinsics target.arch outer := by
  have found := (Text.find?_stem_eq_some_iff intrinsicFamilies_apart).2
    ⟨listed, Text.startsWith_trans begins stemmed⟩
  rw [@eq_comm _ target.isa.family]
  simp [admitsIntrinsic, found]

theorem admitsIntrinsic_of_generic (listed : stem ∈ genericIntrinsics)
    (begins : Text.startsWith name stem) : target.admitsIntrinsic name := by
  have missing : intrinsicFamilies.find? (fun row => Text.startsWith name row.1) = none := by
    rw [List.find?_eq_none]
    exact fun row member again =>
      Text.not_both_of_diverge (generic_apart stem listed row member) ⟨begins, again⟩
  simp [admitsIntrinsic, missing]

/-! ## The rule -/

def x86Intrinsics : List (String × Isa) :=
  [("llvm.x86.sse.", .sse2), ("llvm.x86.sse2.", .sse2), ("llvm.x86.sse41.", .sse41),
    ("llvm.x86.sse42.", .sse42), ("llvm.x86.avx.", .avx), ("llvm.x86.avx2.", .avx2),
    ("llvm.x86.vcvtph2ps.", .avx2), ("llvm.x86.vcvtps2ph.", .avx2)]

inductive Offers (target : Target) (name : String) : Prop
  | generic (stem : String) (listed : stem ∈ genericIntrinsics)
      (begins : Text.startsWith name stem) : Offers target name
  | ranked (stem : String) (weakest : Isa) (listed : (stem, weakest) ∈ x86Intrinsics)
      (begins : Text.startsWith name stem) (x86 : target.isa.family = .x86)
      (strong : weakest ≤ target.isa) : Offers target name
  | avx512 (begins : Text.startsWith name "llvm.x86.avx512.") (wide : target.isa.isAvx512) :
      Offers target name
  | random (begins : Text.startsWith name "llvm.x86.rdrand.") (x86 : target.isa.family = .x86)
      (makes : target.capabilities.rand) : Offers target name
  | neon64 (begins : Text.startsWith name "llvm.aarch64.neon.") (arch : target.arch = .aarch64) :
      Offers target name
  | neon32 (begins : Text.startsWith name "llvm.arm.neon.") (arch : target.arch = .arm) :
      Offers target name
  | wasm (begins : Text.startsWith name "llvm.wasm.") (family : target.isa.family = .wasm) :
      Offers target name

structure BuiltIn (target : Target) (cpu : Cpu) : Prop where
  cpuName : target.cpuName = cpu.name
  family : target.arch.family = target.isa.family
  profile : target.profile = Profile.of target.vectorTarget cpu target.arch
  hasIntrinsic : ∀ name, target.hasIntrinsic name =
    (target.admitsIntrinsic name && knowsIntrinsic target.features name)

theorem exists_builtIn (valid : (build host .builtin request).isValid) :
    ∃ cpu, (build host .builtin request).BuiltIn cpu := by
  obtain ⟨parts, made⟩ := isValid_iff.1 valid
  obtain ⟨suits, profile, -, text, -, machine, -⟩ := builtin_met_iff.1 (assemble_eq_ok.1 made)
  refine ⟨parts.cpu, cpuName_of_ok made, suits.family, profile_of_ok made, fun name => ?_⟩
  simp [Target.hasIntrinsic, machine?, parts?_of_ok made, features, profile_of_ok made, machine,
    MachineRequest.machine, machineRequest]

variable {cpu : Cpu}

theorem BuiltIn.features_eq (builtIn : target.BuiltIn cpu) :
    target.features = (Profile.of target.vectorTarget cpu target.arch).features := by
  rw [features, builtIn.profile]

theorem BuiltIn.capabilities_eq (builtIn : target.BuiltIn cpu) :
    target.capabilities = Capabilities.of target.vectorTarget cpu target.arch := by
  rw [capabilities, builtIn.profile]
  rfl

theorem BuiltIn.providesFeature_iff_le (builtIn : target.BuiltIn cpu) {weakest : Isa}
    (level : (feature, weakest) ∈ featureLevels) (x86 : target.isa.family = .x86) :
    providesFeature target.features feature ↔ weakest ≤ target.isa := by
  rw [builtIn.features_eq]
  exact Lanewise.providesFeature_iff_le level x86

theorem BuiltIn.providesFeature_rdrnd (builtIn : target.BuiltIn cpu)
    (x86 : target.isa.family = .x86) :
    providesFeature target.features "+rdrnd" ↔ target.capabilities.rand := by
  rw [builtIn.features_eq, builtIn.capabilities_eq]
  exact Lanewise.providesFeature_rdrnd x86

/-! ## The rule holds -/

def sharedStems : List (String × IsaFamily) := [("llvm.x86.", .x86), ("llvm.wasm.", .wasm)]

theorem admitsIntrinsic_shared {family : IsaFamily} {outer : String}
    (shared : (outer, family) ∈ sharedStems) (stemmed : Text.startsWith stem outer)
    (begins : Text.startsWith name stem) :
    target.admitsIntrinsic name ↔ target.isa.family = family := by
  have listed : ∀ row ∈ sharedStems, row ∈ intrinsicFamilies := by decide
  have hosted : ∀ row ∈ sharedStems, ∀ arch, hostsIntrinsics arch row.1 := by
    simp [sharedStems, hostsIntrinsics]
  rw [admitsIntrinsic_iff (listed _ shared) stemmed begins]
  exact and_iff_left (hosted _ shared target.arch)

def armStems : List (String × Arch) := [("llvm.aarch64.", .aarch64), ("llvm.arm.", .arm)]

theorem admitsIntrinsic_arm {arch : Arch} {outer : String} (own : (outer, arch) ∈ armStems)
    (stemmed : Text.startsWith stem outer) (begins : Text.startsWith name stem) :
    target.admitsIntrinsic name ↔ target.isa.family = .arm ∧ target.arch = arch := by
  have listed : ∀ row ∈ armStems, (row.1, .arm) ∈ intrinsicFamilies := by decide
  have hosted : ∀ row ∈ armStems, ∀ arch, hostsIntrinsics arch row.1 ↔ arch = row.2 := by
    simp [armStems, hostsIntrinsics]
  rw [admitsIntrinsic_iff (listed _ own) stemmed begins, hosted _ own]

/-- The rows of which the instruction set alone does not decide, or not by its rank. -/
def unrankedRows : List (String × String) :=
  [("llvm.x86.avx512.", "+avx512f"), ("llvm.x86.rdrand.", "+rdrnd"),
    ("llvm.aarch64.neon.", "+neon"), ("llvm.arm.neon.", "+neon"), ("llvm.wasm.", "+simd128")]

theorem mem_intrinsicFeatures : ∀ row ∈ intrinsicFeatures, row ∈ unrankedRows ∨
    ∃ level ∈ x86Intrinsics, level.1 = row.1 ∧ (row.2, level.2) ∈ featureLevels := by
  decide +kernel

theorem mem_x86Intrinsics : ∀ level ∈ x86Intrinsics, Text.startsWith level.1 "llvm.x86." ∧
    ∃ row ∈ intrinsicFeatures, row.1 = level.1 ∧ (row.2, level.2) ∈ featureLevels := by
  decide +kernel

theorem avx512f_level : ("+avx512f", .avx512knl) ∈ featureLevels := by decide

theorem BuiltIn.offers_of_row (builtIn : target.BuiltIn cpu)
    (listed : (stem, feature) ∈ intrinsicFeatures) (begins : Text.startsWith name stem)
    (provided : providesFeature target.features feature) (admitted : target.admitsIntrinsic name) :
    target.Offers name := by
  rcases mem_intrinsicFeatures _ listed with unranked | ⟨⟨_, weakest⟩, level, rfl, provider⟩
  · simp only [unrankedRows, List.mem_cons, Prod.mk.injEq, List.not_mem_nil, or_false] at unranked
    rcases unranked with ⟨rfl, rfl⟩ | ⟨rfl, rfl⟩ | ⟨rfl, rfl⟩ | ⟨rfl, rfl⟩ | ⟨rfl, rfl⟩
    · have x86 := (admitsIntrinsic_shared (.head _) (by decide) begins).1 admitted
      have strong := (builtIn.providesFeature_iff_le avx512f_level x86).1 provided
      exact .avx512 begins ((avx512knl_le_iff x86).1 strong)
    · have x86 := (admitsIntrinsic_shared (.head _) (by decide) begins).1 admitted
      exact .random begins x86 ((builtIn.providesFeature_rdrnd x86).1 provided)
    · exact .neon64 begins ((admitsIntrinsic_arm (.head _) (by decide) begins).1 admitted).2
    · exact .neon32 begins
        ((admitsIntrinsic_arm (.tail _ (.head _)) (by decide) begins).1 admitted).2
    · exact .wasm begins
        ((admitsIntrinsic_shared (.tail _ (.head _)) (by decide) begins).1 admitted)
  · have x86 := (admitsIntrinsic_shared (.head _) (mem_x86Intrinsics _ level).1 begins).1 admitted
    have strong := (builtIn.providesFeature_iff_le provider x86).1 provided
    exact .ranked _ weakest level begins x86 strong

theorem BuiltIn.row_of_offers (builtIn : target.BuiltIn cpu) (offers : target.Offers name) :
    target.admitsIntrinsic name ∧ ((∃ stem ∈ genericIntrinsics, Text.startsWith name stem) ∨
      ∃ stem feature, (stem, feature) ∈ intrinsicFeatures ∧ Text.startsWith name stem ∧
        providesFeature target.features feature) := by
  cases offers with
  | generic stem listed begins =>
      exact ⟨admitsIntrinsic_of_generic listed begins, .inl ⟨stem, listed, begins⟩⟩
  | ranked stem weakest listed begins x86 strong =>
      obtain ⟨stemmed, ⟨_, feature⟩, row, rfl, provider⟩ := mem_x86Intrinsics _ listed
      exact ⟨(admitsIntrinsic_shared (.head _) stemmed begins).2 x86,
        .inr ⟨_, feature, row, begins, (builtIn.providesFeature_iff_le provider x86).2 strong⟩⟩
  | avx512 begins wide =>
      have x86 := family_of_isAvx512 wide
      have strong := (avx512knl_le_iff x86).2 wide
      exact ⟨(admitsIntrinsic_shared (.head _) (by decide) begins).2 x86,
        .inr ⟨_, "+avx512f", by decide, begins,
          (builtIn.providesFeature_iff_le avx512f_level x86).2 strong⟩⟩
  | random begins x86 makes =>
      exact ⟨(admitsIntrinsic_shared (.head _) (by decide) begins).2 x86,
        .inr ⟨_, "+rdrnd", by decide, begins, (builtIn.providesFeature_rdrnd x86).2 makes⟩⟩
  | neon64 begins arch =>
      have arm : target.isa.family = .arm := by rw [← builtIn.family, arch]; rfl
      exact ⟨(admitsIntrinsic_arm (.head _) (by decide) begins).2 ⟨arm, arch⟩,
        .inr ⟨_, "+neon", by decide, begins, builtIn.features_eq ▸ providesFeature_neon arm⟩⟩
  | neon32 begins arch =>
      have arm : target.isa.family = .arm := by rw [← builtIn.family, arch]; rfl
      exact ⟨(admitsIntrinsic_arm (.tail _ (.head _)) (by decide) begins).2 ⟨arm, arch⟩,
        .inr ⟨_, "+neon", by decide, begins, builtIn.features_eq ▸ providesFeature_neon arm⟩⟩
  | wasm begins family =>
      exact ⟨(admitsIntrinsic_shared (.tail _ (.head _)) (by decide) begins).2 family,
        .inr ⟨_, "+simd128", by decide, begins,
          builtIn.features_eq ▸ providesFeature_simd128 family⟩⟩

theorem BuiltIn.hasIntrinsic_iff (builtIn : target.BuiltIn cpu) :
    target.hasIntrinsic name ↔ target.Offers name := by
  rw [builtIn.hasIntrinsic, Bool.and_eq_true, knowsIntrinsic_iff]
  constructor
  · rintro ⟨admitted, ⟨stem, listed, begins⟩ | ⟨stem, feature, listed, begins, provided⟩⟩
    · exact .generic stem listed begins
    · exact builtIn.offers_of_row listed begins provided admitted
  · exact builtIn.row_of_offers

/-! ## Stronger instruction sets -/

theorem BuiltIn.family_eq {second : Cpu} (weaker : target.BuiltIn cpu)
    (stronger : other.BuiltIn second) (same : other.arch = target.arch) :
    other.isa.family = target.isa.family := by
  rw [← stronger.family, ← weaker.family, same]

theorem BuiltIn.rand_mono (weaker : target.BuiltIn cpu) (stronger : other.BuiltIn cpu)
    (family : other.isa.family = target.isa.family) (le : target.isa ≤ other.isa)
    (makes : target.capabilities.rand) : other.capabilities.rand := by
  rw [weaker.capabilities_eq] at makes
  rw [stronger.capabilities_eq]
  simp only [Capabilities.of, Bool.and_eq_true, decide_eq_true_eq] at makes ⊢
  obtain ⟨⟨x86, above⟩, random⟩ := makes
  exact ⟨⟨family.trans x86, Nat.le_trans above le⟩, random⟩

theorem Offers.mono (weaker : target.BuiltIn cpu) (stronger : other.BuiltIn cpu)
    (same : other.arch = target.arch) (le : target.isa ≤ other.isa)
    (offers : target.Offers name) : other.Offers name := by
  have family := weaker.family_eq stronger same
  cases offers with
  | generic stem listed begins => exact .generic stem listed begins
  | ranked stem weakest listed begins x86 strong =>
      exact .ranked stem weakest listed begins (family.trans x86) (Nat.le_trans strong le)
  | avx512 begins wide =>
      have x86 := family_of_isAvx512 wide
      have above := Nat.le_trans ((avx512knl_le_iff x86).2 wide) le
      exact .avx512 begins ((avx512knl_le_iff (family.trans x86)).1 above)
  | random begins x86 makes =>
      exact .random begins (family.trans x86) (weaker.rand_mono stronger family le makes)
  | neon64 begins arch => exact .neon64 begins (same.trans arch)
  | neon32 begins arch => exact .neon32 begins (same.trans arch)
  | wasm begins wasm => exact .wasm begins (family.trans wasm)

theorem intrinsics_offered {host : Host} {request : TargetRequest}
    (valid : (build host .builtin request).isValid) :
    let target := build host .builtin request
    (∀ name, target.hasIntrinsic name ↔ target.Offers name) ∧
    ∀ (home : Host) (stronger : TargetRequest),
      let other := build home .builtin stronger
      other.isValid → other.cpuName = target.cpuName → other.arch = target.arch →
        target.isa ≤ other.isa → ∀ name, target.hasIntrinsic name → other.hasIntrinsic name := by
  intro target
  obtain ⟨cpu, (weaker : target.BuiltIn cpu)⟩ := exists_builtIn valid
  refine ⟨fun name => weaker.hasIntrinsic_iff, ?_⟩
  intro home request other valid sameCpu sameArch le name has
  obtain ⟨second, (stronger : other.BuiltIn second)⟩ := exists_builtIn valid
  obtain rfl : second = cpu :=
    Cpu.name_injective (stronger.cpuName.symm.trans (sameCpu.trans weaker.cpuName))
  exact stronger.hasIntrinsic_iff.2
    (Offers.mono weaker stronger sameArch le (weaker.hasIntrinsic_iff.1 has))

theorem intrinsics_offered_avx2 :
    let request : TargetRequest :=
      { target := Isa.avx2.defaultTarget, cpu := some "skx", os := .linux }
    let stronger : TargetRequest := { request with target := Isa.avx512skx.defaultTarget }
    (build .unknown .builtin request).isValid ∧ (build .unknown .builtin stronger).isValid ∧
      (build .unknown .builtin request).hasIntrinsic "llvm.x86.vcvtph2ps.256" ∧
      (build .unknown .builtin stronger).hasIntrinsic "llvm.x86.vcvtph2ps.256" ∧
      ¬(build .unknown .builtin request).hasIntrinsic "llvm.x86.avx512.mask.compress.d.512" := by
  intro request stronger
  have valid : (build .unknown .builtin request).isValid := by decide +kernel
  have valid' : (build .unknown .builtin stronger).isValid := by decide +kernel
  obtain ⟨offered, kept⟩ := intrinsics_offered valid
  have converts : (build .unknown .builtin request).hasIntrinsic "llvm.x86.vcvtph2ps.256" :=
    (offered _).2 (.ranked "llvm.x86.vcvtph2ps." .avx2 (by decide) (by decide) rfl (by decide))
  refine ⟨valid, valid', converts, ?_, ?_⟩
  · exact kept .unknown stronger valid' (by decide +kernel) rfl (by decide) _ converts
  · decide +kernel

/-! ## Conversions to and from half precision -/

theorem BuiltIn.hasIntrinsic_append (builtIn : target.BuiltIn cpu)
    (x86 : target.isa.family = .x86) (listed : (stem, feature) ∈ intrinsicFeatures)
    (stemmed : Text.startsWith stem "llvm.x86.") (suffix : String) :
    target.hasIntrinsic (stem ++ suffix) ↔ providesFeature target.features feature := by
  have begins := Text.startsWith_append stem suffix
  rw [builtIn.hasIntrinsic, Bool.and_eq_true, knowsIntrinsic_iff_of_row listed begins]
  exact and_iff_right ((admitsIntrinsic_shared (.head _) stemmed begins).2 x86)

theorem BuiltIn.halfConverts_iff (builtIn : target.BuiltIn cpu) (x86 : target.isa.family = .x86) :
    target.capabilities.halfConverts ↔
      target.isa = .avx ∧ cpu.has .f16c ∨ Isa.avx2 ≤ target.isa := by
  rw [capabilities, builtIn.profile]
  have isa : target.vectorTarget.isa = target.isa := rfl
  simp [Profile.of, Capabilities.of, isa, x86, ne_neon_of_x86 x86]

theorem BuiltIn.avx2_le_iff (builtIn : target.BuiltIn cpu) (x86 : target.isa.family = .x86) :
    Isa.avx2 ≤ target.isa ↔ target.capabilities.halfConverts ∧ target.isa ≠ .avx := by
  rw [builtIn.halfConverts_iff x86]
  constructor
  · intro strong
    refine ⟨.inr strong, fun same => ?_⟩
    rw [same] at strong
    exact absurd strong (by decide)
  · rintro ⟨⟨same, -⟩ | strong, different⟩
    · exact absurd same different
    · exact strong

def halfConverters : List String := ["llvm.x86.vcvtph2ps.", "llvm.x86.vcvtps2ph."]

theorem BuiltIn.halfConverter_iff (builtIn : target.BuiltIn cpu) (x86 : target.isa.family = .x86)
    (converter : stem ∈ halfConverters) (suffix : String) : target.hasIntrinsic (stem ++ suffix) ↔
      target.capabilities.halfConverts ∧ target.isa ≠ .avx := by
  have rows : ∀ stem ∈ halfConverters,
      (stem, "+f16c") ∈ intrinsicFeatures ∧ Text.startsWith stem "llvm.x86." := by decide
  have level : ("+f16c", .avx2) ∈ featureLevels := by decide
  obtain ⟨listed, stemmed⟩ := rows stem converter
  rw [builtIn.hasIntrinsic_append x86 listed stemmed, builtIn.providesFeature_iff_le level x86,
    builtIn.avx2_le_iff x86]

theorem BuiltIn.rand_iff (builtIn : target.BuiltIn cpu) (x86 : target.isa.family = .x86)
    (suffix : String) :
    target.capabilities.rand ↔ target.hasIntrinsic ("llvm.x86.rdrand." ++ suffix) := by
  have listed : ("llvm.x86.rdrand.", "+rdrnd") ∈ intrinsicFeatures := by decide
  rw [builtIn.hasIntrinsic_append x86 listed (by decide), builtIn.providesFeature_rdrnd x86]

theorem half_converters_offered {host : Host} {request : TargetRequest}
    (valid : (build host .builtin request).isValid) (x86 : request.isa.family = .x86)
    (suffix : String) :
    let target := build host .builtin request
    (target.capabilities.rand ↔ target.hasIntrinsic ("llvm.x86.rdrand." ++ suffix)) ∧
    ∀ stem ∈ ["llvm.x86.vcvtph2ps.", "llvm.x86.vcvtps2ph."],
      (target.hasIntrinsic (stem ++ suffix) ↔
        target.capabilities.halfConverts ∧ target.isa ≠ .avx) := by
  intro target
  obtain ⟨cpu, (builtIn : target.BuiltIn cpu)⟩ := exists_builtIn valid
  exact ⟨builtIn.rand_iff x86 suffix, fun stem converter =>
    builtIn.halfConverter_iff x86 converter suffix⟩

theorem half_converters_offered_haswell :
    let request : TargetRequest :=
      { target := Isa.avx2.defaultTarget, cpu := some "haswell", os := .linux }
    (build .unknown .builtin request).isValid ∧ request.isa.family = .x86 ∧
      (build .unknown .builtin request).hasIntrinsic "llvm.x86.vcvtps2ph.128" ∧
      (build .unknown .builtin request).hasIntrinsic "llvm.x86.rdrand.32" := by
  intro request
  have valid : (build .unknown .builtin request).isValid := by decide +kernel
  obtain ⟨-, converts⟩ := half_converters_offered valid rfl "128"
  obtain ⟨random, -⟩ := half_converters_offered valid rfl "32"
  refine ⟨valid, rfl, ?_, random.1 (by decide +kernel)⟩
  exact (converts "llvm.x86.vcvtps2ph." (by decide)).2 (by decide +kernel)

/-- A target for AVX code on `ivybridge` says that it converts half precision, but the features that
the toolkit gets do not name the conversions. -/
theorem half_converters_withheld :
    ¬∀ (host : Host) (request : TargetRequest) (suffix : String),
      let target := build host .builtin request
      target.isValid → request.isa.family = .x86 →
        (target.capabilities.halfConverts ↔
          target.hasIntrinsic ("llvm.x86.vcvtph2ps." ++ suffix) ∧
            target.hasIntrinsic ("llvm.x86.vcvtps2ph." ++ suffix)) ∧
        (target.capabilities.rand ↔ target.hasIntrinsic ("llvm.x86.rdrand." ++ suffix)) := by
  intro claimed
  let request : TargetRequest :=
    { target := Isa.avx.defaultTarget, cpu := some "ivybridge", os := .linux }
  have valid : (build .unknown .builtin request).isValid := by decide +kernel
  have converts : (build .unknown .builtin request).capabilities.halfConverts := by decide +kernel
  have withheld : ¬(build .unknown .builtin request).hasIntrinsic "llvm.x86.vcvtph2ps.128" := by
    decide +kernel
  exact withheld ((claimed .unknown request "128" valid rfl).1.1 converts).1

end Target

end Lanewise
