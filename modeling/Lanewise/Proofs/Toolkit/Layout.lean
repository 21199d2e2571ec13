import Lanewise.Proofs.Target.Construction
import Lanewise.Toolkit.Builtin

namespace Lanewise

variable {host : Host} {request : TargetRequest} {triple : Triple} {arch : Arch} {os : Os}
  {text : String} {bits : UInt32}

def laidOutArchs : List String := ["x86_64", "i686", "aarch64", "armv7", "wasm32", "wasm64"]

def narrowArchs : List String := ["i686", "armv7", "wasm32"]

def Triple.pointerBits (triple : Triple) : UInt32 :=
  if triple.arch ∈ narrowArchs then 32 else 64

theorem builtinLayout?_isSome_iff : (builtinLayout? triple).isSome ↔
    triple.arch ∈ laidOutArchs ∨ triple.arch = "arm64" ∧ triple.vendor = "apple" := by
  unfold builtinLayout?
  split <;> (repeat' split) <;> simp_all [laidOutArchs, Triple.isApple]

theorem manglingLetter_mem (triple : Triple) : manglingLetter triple ∈ ["o", "w", "e"] := by
  unfold manglingLetter
  (repeat' split) <;> simp

def LaysOut (text : String) (bits : UInt32) : Prop :=
  ∃ layout, DataLayout.parse text = .ok layout ∧ layout.pointerBits = bits

theorem laysOut_iff : LaysOut text bits ↔
    (DataLayout.parse text).toOption.map (·.pointerBits) = some bits := by
  unfold LaysOut
  cases DataLayout.parse text <;> simp [Except.toOption]

instance : Decidable (LaysOut text bits) := decidable_of_iff' _ laysOut_iff

theorem laysOut_builtinLayout (found : builtinLayout? triple = some text) :
    LaysOut text triple.pointerBits := by
  unfold builtinLayout? at found
  rw [Triple.pointerBits]
  split at found
  case h_1 arch =>
    cases found
    rw [arch]
    have mangled : ∀ letter ∈ ["o", "w", "e"], LaysOut ("e-m:" ++ letter
        ++ "-p270:32:32-p271:32:32-p272:64:64-i64:64-i128:128-f80:128-n8:16:32:64-S128") 64 := by
      decide +kernel
    exact mangled _ (manglingLetter_mem triple)
  -- The other texts are closed, one for each architecture and kind of system.
  all_goals
    (repeat' split at found) <;> cases found
    all_goals
      rw [‹triple.arch = _›]
      decide +kernel

theorem laidOut_of_platform (named : Triple.of? arch os = some triple) :
    triple.arch ∈ laidOutArchs ∨ triple.arch = "arm64" ∧ triple.vendor = "apple" := by
  cases arch <;> cases os <;> cases named <;> decide

theorem pointerBits_of_platform (named : Triple.of? arch os = some triple) :
    triple.pointerBits = if arch.is32Bit then 32 else 64 := by
  cases arch <;> cases os <;> cases named <;> rfl

theorem DataLayout.sizeOf_ptr {layout : DataLayout} {narrow : Bool}
    (pointer : layout.pointerBits = if narrow then 32 else 64) :
    layout.sizeOf .ptr = if narrow then 4 else 8 := by
  rw [sizeOf, pointer]
  cases narrow <;> rfl

def MachineRequest.machine (spec : MachineRequest) (dataLayout : String) : Machine where
  triple := spec.triple
  cpu := spec.cpu
  features := spec.features
  dataLayout
  hasIntrinsic := knowsIntrinsic spec.features

theorem builtinMachine_eq_ok {spec : MachineRequest} {machine : Machine} :
    Toolkit.builtinMachine spec = .ok machine ↔
      ∃ text, builtinLayout? spec.triple = some text ∧ machine = spec.machine text := by
  unfold Toolkit.builtinMachine
  split <;> simp [*, MachineRequest.machine, eq_comm]

theorem builtinMachine_eq_error {spec : MachineRequest} {cause : BackendFault} :
    Toolkit.builtinMachine spec = .error cause ↔
      builtinLayout? spec.triple = none ∧ cause = .noTarget spec.triple.text := by
  unfold Toolkit.builtinMachine
  split <;> simp [*, eq_comm]

theorem forPlatform_eq_ok : Triple.forPlatform arch os = .ok triple ↔
    Triple.of? arch os = some triple :=
  orFail_eq_ok

theorem exists_layout (named : Triple.of? arch os = some triple) : ∃ text layout,
    builtinLayout? triple = some text ∧ DataLayout.parse text = .ok layout := by
  obtain ⟨text, found⟩ := Option.isSome_iff_exists.1
    (builtinLayout?_isSome_iff.2 (laidOut_of_platform named))
  obtain ⟨layout, parsed, -⟩ := laysOut_builtinLayout found
  exact ⟨text, layout, found, parsed⟩

theorem builtin_met_iff {parts : TargetParts} : Met host .builtin request parts ↔
    Suits host request parts.cpu ∧
      parts.profile = Profile.of request.target parts.cpu request.effectiveArch ∧
      Triple.of? request.effectiveArch request.os = some parts.triple ∧
      ∃ text, builtinLayout? parts.triple = some text ∧
        parts.machine = (machineRequest request parts.cpu parts.triple).machine text ∧
        DataLayout.parse text = .ok parts.dataLayout := by
  constructor
  · rintro ⟨suits, profile, named, made, parsed⟩
    obtain ⟨text, found, machine⟩ := builtinMachine_eq_ok.1 made
    rw [machine] at parsed
    exact ⟨suits, profile, forPlatform_eq_ok.1 named, text, found, machine, parsed⟩
  · rintro ⟨suits, profile, named, text, found, machine, parsed⟩
    have made : Toolkit.builtin.machine (machineRequest request parts.cpu parts.triple) =
        .ok parts.machine := builtinMachine_eq_ok.2 ⟨text, found, machine⟩
    exact ⟨suits, profile, forPlatform_eq_ok.2 named, made, machine ▸ parsed⟩

theorem FirstFault.builtin {failure : TargetFault}
    (fault : FirstFault host .builtin request failure) :
    (∀ cause, failure ≠ .backend cause) ∧
      ∀ text fault, failure ≠ .invalidDataLayout text fault := by
  cases fault with
  | family => simp
  | name => simp
  | cpu => simp
  | triple cpu failure suits refused =>
      obtain ⟨-, rfl⟩ := orFail_eq_error.1 refused
      simp
  | machine cpu triple cause suits named refused =>
      obtain ⟨text, layout, found, -⟩ := exists_layout (forPlatform_eq_ok.1 named)
      have missing := (builtinMachine_eq_error.1 refused).1
      rw [machineRequest, found] at missing
      cases missing
  | dataLayout cpu triple machine fault suits named made refused =>
      obtain ⟨text, found, rfl⟩ := builtinMachine_eq_ok.1 made
      obtain ⟨layout, parsed, -⟩ := laysOut_builtinLayout found
      rw [MachineRequest.machine, parsed] at refused
      cases refused

namespace Target

theorem builtin_isValid_iff : (build host .builtin request).isValid ↔
    (∃ cpu, Suits host request cpu) ∧ (Triple.of? request.effectiveArch request.os).isSome := by
  rw [isValid_iff]
  constructor
  · rintro ⟨parts, made⟩
    obtain ⟨suits, -, named, -⟩ := builtin_met_iff.1 (assemble_eq_ok.1 made)
    exact ⟨⟨parts.cpu, suits⟩, Option.isSome_of_eq_some named⟩
  · rintro ⟨⟨cpu, suits⟩, platform⟩
    obtain ⟨triple, named⟩ := Option.isSome_iff_exists.1 platform
    obtain ⟨text, layout, found, parsed⟩ := exists_layout named
    let machine := (machineRequest request cpu triple).machine text
    have met : Met host .builtin request
        ⟨cpu, Profile.of request.target cpu request.effectiveArch, triple, machine, layout⟩ :=
      builtin_met_iff.2 ⟨suits, rfl, named, text, found, rfl, parsed⟩
    exact ⟨_, assemble_eq_ok.2 met⟩

theorem builtin_layouts (host : Host) (request : TargetRequest) (triple : Triple) :
    let target := build host .builtin request
    ((builtinLayout? triple).isSome ↔
      triple.arch ∈ ["x86_64", "i686", "aarch64", "armv7", "wasm32", "wasm64"] ∨
        triple.arch = "arm64" ∧ triple.vendor = "apple") ∧
    (∀ text, builtinLayout? triple = some text → ∃ layout, DataLayout.parse text = .ok layout ∧
      layout.pointerBits = if triple.arch ∈ ["i686", "armv7", "wasm32"] then 32 else 64) ∧
    (∀ failure, target.error? = some failure → (∀ cause, failure ≠ .backend cause) ∧
      ∀ text fault, failure ≠ .invalidDataLayout text fault) ∧
    (target.isValid ↔ (∃ cpu, Suits host request cpu) ∧
      (Triple.of? request.effectiveArch request.os).isSome) ∧
    (target.isValid → target.sizeOf? .ptr = some (if target.is32Bit then 4 else 8) ∧
      ∃ machine, target.machine? = some machine ∧ target.triple? = some machine.triple ∧
        machine.cpu = target.cpuName ∧ machine.features = target.features) := by
  intro target
  refine ⟨builtinLayout?_isSome_iff, fun text => laysOut_builtinLayout, ?_, builtin_isValid_iff, ?_⟩
  · intro failure failed
    exact (assemble_eq_error.1 (error?_eq_some.1 failed)).builtin
  · intro valid
    obtain ⟨parts, made⟩ := isValid_iff.1 valid
    obtain ⟨-, profile, named, text, found, machine, parsed⟩ :=
      builtin_met_iff.1 (assemble_eq_ok.1 made)
    have owned : target.parts? = some parts := parts?_of_ok made
    obtain ⟨layout, again, bits⟩ := laysOut_builtinLayout found
    rw [parsed, Except.ok.injEq] at again
    subst again
    refine ⟨?_, parts.machine, ?_, ?_, ?_, ?_⟩
    · rw [pointerBits_of_platform named] at bits
      simp only [sizeOf?, dataLayout?, owned, Option.map_some, DataLayout.sizeOf_ptr bits]
      rfl
    · simp [machine?, owned]
    · simp [triple?, owned, machine, MachineRequest.machine, machineRequest]
    · simp [cpuName, owned, machine, MachineRequest.machine, machineRequest]
    · simp [features, Target.profile, owned, machine, MachineRequest.machine, machineRequest,
        profile]

end Target

end Lanewise
