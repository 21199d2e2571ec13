import Lanewise.Policy
import Lanewise.Proofs.Target.Reports
import Lanewise.Proofs.Toolkit.Layout

namespace Lanewise

structure Geometry where
  nativeVectorWidth : Nat
  nativeVectorAlignment : Nat
  dataTypeWidth : Nat
  vectorWidth : Nat
  maskBitCount : Nat
  deriving DecidableEq

def Profile.geometry (profile : Profile) : Geometry where
  nativeVectorWidth := profile.nativeVectorWidth
  nativeVectorAlignment := profile.nativeVectorAlignment
  dataTypeWidth := profile.dataTypeWidth
  vectorWidth := profile.vectorWidth
  maskBitCount := profile.maskBitCount

theorem Capabilities.eq_off_iff {capabilities : Capabilities} :
    capabilities = .off ↔ ∀ capability ∈ capabilities.toList, capability.2 = false := by
  cases capabilities
  simp [off, toList]

structure Policy.Fallback (policy : Policy) : Prop where
  gather : policy.gather = .scalarized
  scatter : policy.scatter = .scalarized
  maskedStore : policy.maskedStore = .scalarize
  fusesMultiplyAdd : policy.fusesMultiplyAdd = false
  coalesces : policy.coalesces = false
  usesZmm : policy.usesZmm = false

namespace Target

variable {target : Target} {host : Host} {toolkit : Toolkit} {request : TargetRequest}

/-- What a target answers that keeps nothing but the geometry of its vector target. -/
structure Degraded (target : Target) : Prop where
  geometry : ∀ host toolkit request, (build host toolkit request).isValid →
    (build host toolkit request).vectorTarget = target.vectorTarget →
    target.profile.geometry = (build host toolkit request).profile.geometry
  capabilities : ∀ capability ∈ target.capabilities.toList, capability.2 = false
  maskingIsFree : target.profile.maskingIsFree = false
  tripleText : target.tripleText = ""
  features : target.features = ""
  sizeOf? : ∀ scalar, target.sizeOf? scalar = none
  placeStruct? : ∀ fields, target.placeStruct? fields = none
  hasIntrinsic : ∀ name, target.hasIntrinsic name = false
  attributeList : ∀ limitZmm, target.attributeList limitZmm = []
  claimReport : ∀ kinds, (target.claimReport kinds).1 = false
  policy : ∀ opt, ({ target, opt } : Policy).Fallback

theorem parts?_eq_none_iff : target.parts? = none ↔ ¬target.isValid := by
  unfold parts? isValid error?
  cases target.outcome <;> simp [Except.toOption]

theorem isValid_iff_parts : target.isValid ↔
    target.triple?.isSome ∧ target.machine?.isSome ∧ target.dataLayout?.isSome := by
  cases found : target.parts? with
  | none => simpa [triple?, found] using parts?_eq_none_iff.1 found
  | some parts =>
      have valid : target.isValid := by
        by_contra invalid
        rw [parts?_eq_none_iff.2 invalid] at found
        cases found
      simp [triple?, machine?, dataLayout?, found, valid]

theorem geometry_build (host : Host) (toolkit : Toolkit) (request : TargetRequest) :
    (build host toolkit request).profile.geometry = (Profile.bare request.target).geometry := by
  cases outcome : assemble host toolkit request with
  | error failure => rw [profile_of_error outcome]
  | ok parts => rw [profile_of_ok outcome]; rfl

theorem family_defaultArch (family : IsaFamily) : family.defaultArch.family = family := by
  cases family <;> rfl

theorem custom_triple (family : IsaFamily) : (Triple.of? family.defaultArch .custom).isSome := by
  cases family <;> rfl

theorem custom_isValid (host : Host) (target : VectorTarget) :
    (build host .builtin { target, os := .custom }).isValid := by
  let request : TargetRequest := { target, os := .custom }
  have suits : Suits host request (Cpu.baseline request.isa request.effectiveArch) :=
    ⟨family_defaultArch _, .unnamed rfl, Cpu.baseline_executes (family_defaultArch _).symm⟩
  exact builtin_isValid_iff.2 ⟨⟨_, suits⟩, custom_triple request.isa.family⟩

theorem degraded (invalid : ¬target.isValid) : target.Degraded := by
  have missing : target.parts? = none := parts?_eq_none_iff.2 invalid
  have valid : target.isValid = false := by simpa using invalid
  have bare : target.profile = Profile.bare target.vectorTarget := by simp [profile, missing]
  have masking : target.profile.maskingIsFree = false := by rw [bare]; rfl
  have off : target.capabilities = .off := by rw [capabilities, bare]; rfl
  have irrelevant : target.relevantPitfalls = .empty := by rw [relevantPitfalls, bare]; rfl
  refine ⟨?_, Capabilities.eq_off_iff.1 off, masking, ?_, ?_, ?_, ?_, ?_, ?_, ?_, ?_⟩
  · intro host toolkit request _ same
    rw [geometry_build, bare, ← same]
    rfl
  · simp [tripleText, triple?, missing]
  · rw [features, bare]
    rfl
  · simp [sizeOf?, dataLayout?, missing]
  · simp [placeStruct?, dataLayout?, missing]
  · simp [hasIntrinsic, machine?, missing]
  · simp [attributeList, valid]
  · intro kinds
    -- Only the empty set matters here, and that is always reported.
    by_cases matters : target.matters kinds
    · have none : kinds = .empty := by
        rw [Target.matters, Pitfalls.contains_iff, irrelevant] at matters
        exact Pitfalls.subset_empty_iff.1 matters
      have reported : target.hasReported kinds :=
        Pitfalls.contains_iff.2 fun bit member => absurd member (by simp [none])
      simp [Target.claimReport, matters, reported]
    · simp [Target.claimReport, matters]
  · intro opt
    constructor <;>
      simp [Policy.gather, Policy.scatter, Policy.usesGather, Policy.usesScatter,
        Policy.maskedStore, Policy.fusesMultiplyAdd, Policy.coalesces, Policy.usesZmm,
        LaneAccess.ofNative, off, Capabilities.off, masking, valid]

theorem invalid_degraded (host : Host) (toolkit : Toolkit) (request : TargetRequest)
    (calls : List ReportCall) :
    let target := (build host toolkit request).noted calls
    (target.isValid ↔ (build host toolkit request).isValid) ∧
    (target.isValid ↔
      target.triple?.isSome ∧ target.machine?.isSome ∧ target.dataLayout?.isSome) ∧
    (∃ other : TargetRequest, other.target = target.vectorTarget ∧
      (build host .builtin other).isValid) ∧
    (¬target.isValid → target.Degraded) := by
  intro target
  refine ⟨?_, isValid_iff_parts, ⟨{ target := _, os := .custom }, rfl, custom_isValid host _⟩,
    degraded⟩
  rw [show target.isValid = _ from isValid_noted _ calls]

end Target

end Lanewise
