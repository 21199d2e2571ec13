import Lanewise.Proofs.Cpu
import Lanewise.Proofs.Except

namespace Lanewise

variable {host : Host} {toolkit : Toolkit} {request : TargetRequest}

/-! ## The rules of a request -/

/-- The processor that a request asks for: the baseline of its instruction set when it names none,
the baseline of the host's strongest set of the family for `native`, or failing that the baseline of
its own set, and otherwise the one that goes by the name. -/
inductive ChosenCpu (host : Host) (request : TargetRequest) : Cpu → Prop
  | unnamed (silent : request.cpu = none) :
      ChosenCpu host request (Cpu.baseline request.isa request.effectiveArch)
  | native (best : Isa) (asked : request.cpu = some TargetRequest.nativeName)
      (listed : best ∈ host.isas) (family : best.family = request.effectiveArch.family)
      (strongest : ∀ isa ∈ host.isas, isa.family = request.effectiveArch.family → isa ≤ best) :
      ChosenCpu host request (Cpu.baseline best request.effectiveArch)
  | stranger (asked : request.cpu = some TargetRequest.nativeName)
      (strange : ∀ isa ∈ host.isas, isa.family ≠ request.effectiveArch.family) :
      ChosenCpu host request (Cpu.baseline request.isa request.effectiveArch)
  | named (cpu : Cpu) (text : String) (asked : request.cpu = some text)
      (other : text ≠ TargetRequest.nativeName) (known : text = cpu.name ∨ text ∈ cpu.aliases) :
      ChosenCpu host request cpu

structure Suits (host : Host) (request : TargetRequest) (cpu : Cpu) : Prop where
  family : request.effectiveArch.family = request.isa.family
  chosen : ChosenCpu host request cpu
  executes : cpu.executes request.isa request.effectiveArch

def machineRequest (request : TargetRequest) (cpu : Cpu) (triple : Triple) : MachineRequest where
  triple
  cpu := cpu.name
  features := (Profile.of request.target cpu request.effectiveArch).features
  pic := request.pic
  codeModel := request.codeModel

structure Met (host : Host) (toolkit : Toolkit) (request : TargetRequest) (parts : TargetParts) :
    Prop where
  suits : Suits host request parts.cpu
  profile : parts.profile = Profile.of request.target parts.cpu request.effectiveArch
  triple : toolkit.triple request.effectiveArch request.os = .ok parts.triple
  machine : toolkit.machine (machineRequest request parts.cpu parts.triple) = .ok parts.machine
  dataLayout : DataLayout.parse parts.machine.dataLayout = .ok parts.dataLayout

/-- The failure of the first condition of a request that does not hold. -/
inductive FirstFault (host : Host) (toolkit : Toolkit) (request : TargetRequest) :
    TargetFault → Prop
  | family (differs : request.effectiveArch.family ≠ request.isa.family) :
      FirstFault host toolkit request (.incompatibleArch request.effectiveArch request.target)
  | name (text : String) (family : request.effectiveArch.family = request.isa.family)
      (asked : request.cpu = some text) (other : text ≠ TargetRequest.nativeName)
      (unknown : ∀ cpu : Cpu, text ≠ cpu.name ∧ text ∉ cpu.aliases) :
      FirstFault host toolkit request (.unknownCpu text)
  | cpu (cpu : Cpu) (family : request.effectiveArch.family = request.isa.family)
      (chosen : ChosenCpu host request cpu)
      (unable : ¬cpu.executes request.isa request.effectiveArch) :
      FirstFault host toolkit request (.incompatibleCpu cpu request.target)
  | triple (cpu : Cpu) (failure : TargetFault) (suits : Suits host request cpu)
      (refused : toolkit.triple request.effectiveArch request.os = .error failure) :
      FirstFault host toolkit request failure
  | machine (cpu : Cpu) (triple : Triple) (cause : BackendFault) (suits : Suits host request cpu)
      (named : toolkit.triple request.effectiveArch request.os = .ok triple)
      (refused : toolkit.machine (machineRequest request cpu triple) = .error cause) :
      FirstFault host toolkit request (.backend cause)
  | dataLayout (cpu : Cpu) (triple : Triple) (machine : Machine) (fault : LayoutFault)
      (suits : Suits host request cpu)
      (named : toolkit.triple request.effectiveArch request.os = .ok triple)
      (made : toolkit.machine (machineRequest request cpu triple) = .ok machine)
      (refused : DataLayout.parse machine.dataLayout = .error fault) :
      FirstFault host toolkit request (.invalidDataLayout machine.dataLayout fault)

/-! ## The choice of a processor -/

theorem chooseCpu_unnamed (silent : request.cpu = none) (arch : Arch) :
    chooseCpu host request arch = .ok (Cpu.baseline request.isa arch) := by
  rw [chooseCpu, silent]

theorem chooseCpu_native (asked : request.cpu = some TargetRequest.nativeName) (arch : Arch) :
    chooseCpu host request arch =
      .ok ((host.nativeCpu? arch).getD (Cpu.baseline request.isa arch)) := by
  rw [chooseCpu, asked]
  exact if_pos rfl

theorem chooseCpu_named {text : String} (asked : request.cpu = some text)
    (other : text ≠ TargetRequest.nativeName) (arch : Arch) :
    chooseCpu host request arch = orFail (.unknownCpu text) (Cpu.ofName? text) := by
  rw [chooseCpu, asked]
  exact if_neg other

theorem known_iff {cpu : Cpu} {text : String} :
    text = cpu.name ∨ text ∈ cpu.aliases ↔ Cpu.ofName? text = some cpu := by
  rw [Cpu.ofName?_eq_some_iff, Cpu.answersTo_iff, List.mem_cons]

theorem unknown_iff {text : String} :
    (∀ cpu : Cpu, text ≠ cpu.name ∧ text ∉ cpu.aliases) ↔ Cpu.ofName? text = none := by
  simp only [Cpu.ofName?_eq_none_iff, Cpu.answersTo_iff, List.mem_cons, not_or, ne_eq]

theorem chosenCpu_of_chooseCpu {cpu : Cpu}
    (chosen : chooseCpu host request request.effectiveArch = .ok cpu) :
    ChosenCpu host request cpu := by
  cases asked : request.cpu with
  | none =>
      rw [chooseCpu_unnamed asked, Except.ok.injEq] at chosen
      exact chosen ▸ .unnamed asked
  | some text =>
      by_cases native : text = TargetRequest.nativeName
      · subst native
        rw [chooseCpu_native asked, Except.ok.injEq] at chosen
        cases found : host.nativeCpu? request.effectiveArch with
        | none =>
            rw [found, Option.getD_none] at chosen
            exact chosen ▸ .stranger asked (Host.nativeCpu?_eq_none_iff.1 found)
        | some cpu =>
            obtain ⟨best, listed, family, strongest, rfl⟩ := Host.nativeCpu?_eq_some_iff.1 found
            rw [found, Option.getD_some] at chosen
            exact chosen ▸ .native best asked listed family strongest
      · rw [chooseCpu_named asked native, orFail_eq_ok] at chosen
        exact .named cpu text asked native (known_iff.2 chosen)

theorem chooseCpu_of_chosenCpu {cpu : Cpu} (chosen : ChosenCpu host request cpu) :
    chooseCpu host request request.effectiveArch = .ok cpu := by
  cases chosen with
  | unnamed silent => exact chooseCpu_unnamed silent _
  | native best asked listed family strongest =>
      have found := Host.nativeCpu?_eq_some_iff.2 ⟨best, listed, family, strongest, rfl⟩
      rw [chooseCpu_native asked, found, Option.getD_some]
  | stranger asked strange =>
      rw [chooseCpu_native asked, Host.nativeCpu?_eq_none_iff.2 strange, Option.getD_none]
  | named _ text asked other known =>
      rw [chooseCpu_named asked other, orFail_eq_ok, known_iff.1 known]

theorem chooseCpu_eq_ok {cpu : Cpu} :
    chooseCpu host request request.effectiveArch = .ok cpu ↔ ChosenCpu host request cpu :=
  ⟨chosenCpu_of_chooseCpu, chooseCpu_of_chosenCpu⟩

theorem chooseCpu_eq_error {failure : TargetFault} :
    chooseCpu host request request.effectiveArch = .error failure ↔
      ∃ text, request.cpu = some text ∧ text ≠ TargetRequest.nativeName ∧
        (∀ cpu : Cpu, text ≠ cpu.name ∧ text ∉ cpu.aliases) ∧ failure = .unknownCpu text := by
  cases asked : request.cpu with
  | none => simp [chooseCpu_unnamed asked]
  | some text =>
      by_cases native : text = TargetRequest.nativeName
      · subst native
        simp [chooseCpu_native asked]
      · simp only [chooseCpu_named asked native, orFail_eq_error, Option.some.injEq, unknown_iff]
        constructor
        · rintro ⟨unknown, rfl⟩
          exact ⟨text, rfl, native, unknown, rfl⟩
        · rintro ⟨_, rfl, -, unknown, rfl⟩
          exact ⟨unknown, rfl⟩

/-! ## The chain of conditions -/

theorem suits_iff {cpu : Cpu} : Suits host request cpu ↔
    request.effectiveArch.family = request.isa.family ∧
      chooseCpu host request request.effectiveArch = .ok cpu ∧
      cpu.executes request.isa request.effectiveArch := by
  rw [chooseCpu_eq_ok]
  exact ⟨fun suits => ⟨suits.family, suits.chosen, suits.executes⟩,
    fun ⟨family, chosen, executes⟩ => ⟨family, chosen, executes⟩⟩

theorem assemble_eq_ok {parts : TargetParts} :
    assemble host toolkit request = .ok parts ↔ Met host toolkit request parts := by
  unfold assemble
  simp only [bind_eq_ok, require_eq_ok, pure_eq_ok, Toolkit.makeMachine, DataLayout.read,
    mapError_eq_ok, exists_const, decide_eq_true_eq]
  constructor
  · rintro ⟨family, cpu, chosen, executes, triple, named, machine, made, layout, read, rfl⟩
    exact ⟨suits_iff.2 ⟨family, chosen, executes⟩, rfl, named, made, read⟩
  · rintro ⟨suits, profile, named, made, read⟩
    obtain ⟨family, chosen, executes⟩ := suits_iff.1 suits
    refine ⟨family, parts.cpu, chosen, executes, parts.triple, named, parts.machine, made,
      parts.dataLayout, read, ?_⟩
    rw [← profile]

theorem assemble_eq_error {failure : TargetFault} :
    assemble host toolkit request = .error failure ↔ FirstFault host toolkit request failure := by
  unfold assemble
  simp only [bind_eq_error, require_eq_ok, require_eq_error, chooseCpu_eq_error, chooseCpu_eq_ok,
    pure_ne_error, Toolkit.makeMachine, DataLayout.read, mapError_eq_ok, mapError_eq_error,
    exists_const, decide_eq_true_eq]
  constructor
  · rintro (⟨differs, rfl⟩ | ⟨family, ⟨text, asked, other, unknown, rfl⟩ | ⟨cpu, chosen, rest⟩⟩)
    · exact .family differs
    · exact .name text family asked other unknown
    · rcases rest with ⟨unable, rfl⟩ | ⟨executes, rest⟩
      · exact .cpu cpu family chosen unable
      · have suits : Suits host request cpu := ⟨family, chosen, executes⟩
        rcases rest with refused | ⟨triple, named, ⟨cause, refused, rfl⟩ | ⟨machine, made, rest⟩⟩
        · exact .triple cpu failure suits refused
        · exact .machine cpu triple cause suits named refused
        · rcases rest with ⟨fault, refused, rfl⟩ | ⟨_, _, impossible⟩
          · exact .dataLayout cpu triple machine fault suits named made refused
          · cases impossible
  · intro fault
    cases fault with
    | family differs => exact .inl ⟨differs, rfl⟩
    | name text family asked other unknown =>
        exact .inr ⟨family, .inl ⟨text, asked, other, unknown, rfl⟩⟩
    | cpu cpu family chosen unable => exact .inr ⟨family, .inr ⟨cpu, chosen, .inl ⟨unable, rfl⟩⟩⟩
    | triple cpu failure suits refused =>
        exact .inr ⟨suits.family, .inr ⟨cpu, suits.chosen, .inr ⟨suits.executes, .inl refused⟩⟩⟩
    | machine cpu triple cause suits named refused =>
        exact .inr ⟨suits.family, .inr ⟨cpu, suits.chosen, .inr ⟨suits.executes,
          .inr ⟨triple, named, .inl ⟨cause, refused, rfl⟩⟩⟩⟩⟩
    | dataLayout cpu triple machine fault suits named made refused =>
        exact .inr ⟨suits.family, .inr ⟨cpu, suits.chosen, .inr ⟨suits.executes,
          .inr ⟨triple, named, .inr ⟨machine, made, .inl ⟨fault, refused, rfl⟩⟩⟩⟩⟩⟩

/-! ## Targets -/

namespace Target

theorem error?_eq_some {target : Target} {failure : TargetFault} :
    target.error? = some failure ↔ target.outcome = .error failure := by
  unfold error?
  cases target.outcome <;> simp

theorem isValid_iff {target : Target} : target.isValid ↔ ∃ parts, target.outcome = .ok parts := by
  unfold isValid error?
  cases target.outcome <;> simp

theorem create_eq_ok {target : Target} : create host toolkit request = .ok target ↔
    (build host toolkit request).isValid ∧ target = build host toolkit request := by
  cases failed : (build host toolkit request).error? <;> simp [create, isValid, failed, eq_comm]

theorem create_eq_error {failure : TargetFault} : create host toolkit request = .error failure ↔
    (build host toolkit request).error? = some failure := by
  cases failed : (build host toolkit request).error? <;> simp [create, failed]

theorem create_eq_error_iff_firstFault {failure : TargetFault} :
    create host toolkit request = .error failure ↔ FirstFault host toolkit request failure := by
  rw [create_eq_error, error?_eq_some]
  exact assemble_eq_error

theorem parts?_of_ok {target : Target} {parts : TargetParts} (made : target.outcome = .ok parts) :
    target.parts? = some parts := by
  rw [parts?, made]
  rfl

theorem cpuName_of_ok {target : Target} {parts : TargetParts} (made : target.outcome = .ok parts) :
    target.cpuName = parts.cpu.name := by
  rw [cpuName, parts?_of_ok made]

theorem profile_of_ok {parts : TargetParts} (made : assemble host toolkit request = .ok parts) :
    (build host toolkit request).profile =
      Profile.of request.target parts.cpu request.effectiveArch := by
  rw [← (assemble_eq_ok.1 made).profile]
  simp [profile, parts?, build, made, Except.toOption]

theorem profile_of_error {failure : TargetFault}
    (failed : assemble host toolkit request = .error failure) :
    (build host toolkit request).profile = Profile.bare request.target := by
  simp [profile, parts?, build, failed, Except.toOption, vectorTarget]

end Target

theorem build_decided (host : Host) (toolkit : Toolkit) (request : TargetRequest) :
    let target := Target.build host toolkit request
    (∀ parts, target.outcome = .ok parts ↔ Met host toolkit request parts) ∧
    (target.isValid ↔ ∃ parts, Met host toolkit request parts) ∧
    (∀ failure, target.error? = some failure ↔ FirstFault host toolkit request failure) ∧
    (∀ made, Target.create host toolkit request = .ok made ↔ target.isValid ∧ made = target) ∧
    (∀ failure, Target.create host toolkit request = .error failure ↔
      target.error? = some failure) := by
  intro target
  refine ⟨fun _ => assemble_eq_ok, ?_, ?_, fun _ => Target.create_eq_ok,
    fun _ => Target.create_eq_error⟩
  · rw [Target.isValid_iff]
    exact exists_congr fun _ => assemble_eq_ok
  · intro failure
    rw [Target.error?_eq_some]
    exact assemble_eq_error

end Lanewise
