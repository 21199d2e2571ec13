import Lanewise.Policy
import Lanewise.Proofs.Optimization
import Lanewise.Toolkit.Builtin

namespace Lanewise

theorem Switches.shows_withFlags_name (flag : OptFlag) (lasting : flag.isLasting)
    (only : flag.unlistedNames = []) (opt : Switches) (flags : List String) :
    (opt.withFlags flags).shows flag = (opt.shows flag || flags.contains flag.name) := by
  rw [Bool.eq_iff_iff, shows_withFlags lasting]
  simp [OptFlag.ofName?_eq_some_iff, only]

theorem LaneAccess.ofNative_eq_native {usable : Bool} :
    ofNative usable = .native ↔ usable := by
  cases usable <;> simp [ofNative]

namespace Policy

variable {policy : Policy} {opt : Switches} {flags : List String}

theorem gather_eq_native : policy.gather = .native ↔
    policy.target.capabilities.gather ∧ policy.opt.disableGathers = false := by
  simp [gather, LaneAccess.ofNative_eq_native, usesGather]

theorem scatter_eq_native : policy.scatter = .native ↔
    policy.target.capabilities.scatter ∧ policy.opt.disableScatters = false := by
  simp [scatter, LaneAccess.ofNative_eq_native, usesScatter]

theorem maskedStore_eq_native :
    policy.maskedStore = .native ↔ policy.target.profile.maskingIsFree := by
  unfold maskedStore
  split
  · simp [*]
  · split <;> simp [*]

theorem maskedStore_eq_blend : policy.maskedStore = .blend ↔
    policy.target.isValid ∧ policy.target.profile.maskingIsFree = false ∧
      policy.opt.disableBlendedMaskedStores = false := by
  unfold maskedStore
  split
  · simp [*]
  · split <;> simp_all

theorem fusesMultiplyAdd_iff : policy.fusesMultiplyAdd ↔
    policy.target.capabilities.fma ∧ policy.opt.disableFma = false := by
  simp [fusesMultiplyAdd]

theorem coalesces_iff : policy.coalesces ↔
    policy.target.isValid ∧ policy.opt.disableCoalescing = false := by
  simp [coalesces]

theorem usesZmm_iff : policy.usesZmm ↔
    policy.target.isValid ∧ policy.target.isa.isAvx512 ∧ policy.opt.disableZmm = false := by
  simp [usesZmm, and_assoc, and_left_comm]

theorem mem_attributeList_width {key value : String}
    (width : key = "prefer-vector-width" ∨ key = "min-legal-vector-width") :
    (key, value) ∈ policy.attributeList ↔
      policy.target.isValid ∧ policy.target.isa.isAvx512 ∧ 16 ≤ policy.target.vectorWidth ∧
        value = if policy.opt.disableZmm then "256" else "512" := by
  unfold Policy.attributeList Target.attributeList
  by_cases valid : policy.target.isValid
  · rcases width with rfl | rfl <;> simp [valid, and_assoc]
  · simp [valid]

structure Decides (policy : Policy) (opt : Switches) (flags : List String) : Prop where
  gather : policy.gather = .native ↔ policy.target.capabilities.gather ∧
    opt.disableGathers = false ∧ "disable-gathers" ∉ flags
  scatter : policy.scatter = .native ↔ policy.target.capabilities.scatter ∧
    opt.disableScatters = false ∧ "disable-scatters" ∉ flags
  fusesMultiplyAdd : policy.fusesMultiplyAdd ↔ policy.target.capabilities.fma ∧
    opt.disableFma = false ∧ "disable-fma" ∉ flags
  coalesces : policy.coalesces ↔ policy.target.isValid ∧
    opt.disableCoalescing = false ∧ "disable-coalescing" ∉ flags
  maskedStore_native : policy.maskedStore = .native ↔ policy.target.profile.maskingIsFree
  maskedStore_blend : policy.maskedStore = .blend ↔
    policy.target.isValid ∧ policy.target.profile.maskingIsFree = false ∧
      opt.disableBlendedMaskedStores = false ∧ "disable-blended-masked-stores" ∉ flags
  usesZmm : policy.usesZmm ↔ policy.target.isValid ∧ policy.target.isa.isAvx512 ∧
    opt.disableZmm = false ∧ "disable-zmm" ∉ flags
  width : ∀ key ∈ ["prefer-vector-width", "min-legal-vector-width"], ∀ value,
    (key, value) ∈ policy.attributeList ↔
      value = "512" ∧ policy.usesZmm ∧ 16 ≤ policy.target.vectorWidth ∨
      value = "256" ∧ policy.target.isValid ∧ policy.target.isa.isAvx512 ∧
        16 ≤ policy.target.vectorWidth ∧ (opt.disableZmm ∨ "disable-zmm" ∈ flags)

/-- Whatever one policy falls back from, the other falls back from as well. -/
structure NoStronger (policy other : Policy) : Prop where
  gather : policy.gather = .native → other.gather = .native
  scatter : policy.scatter = .native → other.scatter = .native
  fusesMultiplyAdd : policy.fusesMultiplyAdd → other.fusesMultiplyAdd
  coalesces : policy.coalesces → other.coalesces
  maskedStore_native : policy.maskedStore = .native → other.maskedStore = .native
  maskedStore_scalarize : other.maskedStore = .scalarize → policy.maskedStore = .scalarize
  usesZmm : policy.usesZmm → other.usesZmm

theorem decides (target : Target) (opt : Switches) (flags : List String) :
    ({ target, opt := opt.withFlags flags } : Policy).Decides opt flags := by
  have gathers := Switches.shows_withFlags_name .disableGathers rfl rfl opt flags
  have scatters := Switches.shows_withFlags_name .disableScatters rfl rfl opt flags
  have fma := Switches.shows_withFlags_name .disableFma rfl rfl opt flags
  have coalescing := Switches.shows_withFlags_name .disableCoalescing rfl rfl opt flags
  have blending :=
    Switches.shows_withFlags_name .disableBlendedMaskedStores rfl rfl opt flags
  have zmm := Switches.shows_withFlags_name .disableZmm rfl rfl opt flags
  simp only [Switches.shows, OptFlag.name] at gathers scatters fma coalescing blending zmm
  refine ⟨?_, ?_, ?_, ?_, maskedStore_eq_native, ?_, ?_, ?_⟩
  · simp [gather_eq_native, gathers]
  · simp [scatter_eq_native, scatters]
  · simp [fusesMultiplyAdd_iff, fma]
  · simp [coalesces_iff, coalescing]
  · simp [maskedStore_eq_blend, blending]
  · simp [usesZmm_iff, zmm]
  · intro key width value
    have limited : opt.disableZmm ∨ "disable-zmm" ∈ flags ↔
        (opt.disableZmm || flags.contains "disable-zmm") := by simp
    rw [mem_attributeList_width (by simpa using width), usesZmm_iff, zmm, limited]
    cases opt.disableZmm || flags.contains "disable-zmm" with
    | false => simp [and_assoc, and_comm, and_left_comm]
    | true => simp [and_comm, and_left_comm]

theorem Decides.noStronger {other : Policy} {fewer : List String}
    (decided : policy.Decides opt flags) (again : other.Decides opt fewer)
    (same : policy.target = other.target) (subset : fewer ⊆ flags) : policy.NoStronger other where
  gather native := by
    obtain ⟨offered, enabled, absent⟩ := decided.gather.1 native
    exact again.gather.2 ⟨same ▸ offered, enabled, fun listed => absent (subset listed)⟩
  scatter native := by
    obtain ⟨offered, enabled, absent⟩ := decided.scatter.1 native
    exact again.scatter.2 ⟨same ▸ offered, enabled, fun listed => absent (subset listed)⟩
  fusesMultiplyAdd fuses := by
    obtain ⟨offered, enabled, absent⟩ := decided.fusesMultiplyAdd.1 fuses
    exact again.fusesMultiplyAdd.2 ⟨same ▸ offered, enabled, fun listed => absent (subset listed)⟩
  coalesces coalesces := by
    obtain ⟨valid, enabled, absent⟩ := decided.coalesces.1 coalesces
    exact again.coalesces.2 ⟨same ▸ valid, enabled, fun listed => absent (subset listed)⟩
  maskedStore_native native :=
    again.maskedStore_native.2 (same ▸ decided.maskedStore_native.1 native)
  maskedStore_scalarize scalarized := by
    cases stored : policy.maskedStore with
    | native =>
        rw [again.maskedStore_native.2 (same ▸ decided.maskedStore_native.1 stored)] at scalarized
        cases scalarized
    | blend =>
        obtain ⟨valid, masked, enabled, absent⟩ := decided.maskedStore_blend.1 stored
        rw [again.maskedStore_blend.2
          ⟨same ▸ valid, same ▸ masked, enabled, fun listed => absent (subset listed)⟩]
          at scalarized
        cases scalarized
    | scalarize => rfl
  usesZmm uses := by
    obtain ⟨valid, wide, enabled, absent⟩ := decided.usesZmm.1 uses
    exact again.usesZmm.2 ⟨same ▸ valid, same ▸ wide, enabled, fun listed => absent (subset listed)⟩

theorem decided_under_flags (target : Target) (opt : Switches) (flags : List String)
    (accepted : ∀ name ∈ flags, opt.accepts name) :
    ∃ next, opt.setFlags flags = .ok next ∧
      ({ target, opt := next } : Policy).Decides opt flags ∧
      ∀ before name after, flags = before ++ name :: after →
        ∃ without, opt.setFlags (before ++ after) = .ok without ∧
          ({ target, opt := next } : Policy).NoStronger { target, opt := without } := by
  refine ⟨opt.withFlags flags, Switches.setFlags_of_accepts accepted, decides target opt flags, ?_⟩
  rintro before name after rfl
  have subset : before ++ after ⊆ before ++ name :: after :=
    List.append_subset.2 ⟨List.subset_append_left _ _,
      List.Subset.trans (List.subset_cons_self name after) (List.subset_append_right _ _)⟩
  refine ⟨opt.withFlags (before ++ after),
    Switches.setFlags_of_accepts fun name' listed => accepted name' (subset listed), ?_⟩
  exact (decides target opt _).noStronger (decides target opt _) rfl subset

theorem decided_under_disable_zmm :
    let target := Target.build .unknown .builtin
      { target := Isa.avx512skx.defaultTarget, os := .linux }
    ∃ next, Switches.setFlags {} ["fast-math", "disable-zmm", "disable-gathers"] = .ok next ∧
      ({ target, opt := next } : Policy).usesZmm = false ∧
      ("prefer-vector-width", "256") ∈ ({ target, opt := next } : Policy).attributeList ∧
      ({ target, opt := next } : Policy).scatter = .native := by
  intro target
  obtain ⟨next, applied, decided, -⟩ :=
    decided_under_flags target {} ["fast-math", "disable-zmm", "disable-gathers"] (by decide)
  have valid : target.isValid := by decide +kernel
  have scatters : target.capabilities.scatter := by decide +kernel
  have wide : 16 ≤ target.vectorWidth := by decide +kernel
  refine ⟨next, applied, ?_, ?_, decided.scatter.2 ⟨scatters, rfl, by decide⟩⟩
  · rw [← Bool.not_eq_true, decided.usesZmm]
    simp
  · exact (decided.width _ List.mem_cons_self _).2
      (.inr ⟨rfl, valid, rfl, wide, .inr (by decide)⟩)

end Policy

end Lanewise
