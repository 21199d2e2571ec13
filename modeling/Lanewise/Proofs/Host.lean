import Lanewise.Proofs.Target.Construction
import Lanewise.Toolkit.Builtin
import Mathlib.Data.Set.Basic
import Mathlib.Order.Bounds.Defs

namespace Lanewise

variable {toolkit : Toolkit} {request : TargetRequest} {arch : Arch} {cpu : Cpu} {best isa : Isa}

namespace Host

variable {host other : Host}

def isasIn (host : Host) (family : IsaFamily) : Set Isa :=
  {isa | isa ∈ host.isas ∧ isa.family = family}

/-! ## The strongest set -/

theorem nativeCpu?_eq_some_iff_isGreatest : host.nativeCpu? arch = some cpu ↔
    ∃ best, IsGreatest (host.isasIn arch.family) best ∧ cpu = Cpu.baseline best arch := by
  rw [nativeCpu?_eq_some_iff]
  constructor
  · rintro ⟨best, listed, family, strongest, rfl⟩
    exact ⟨best, ⟨⟨listed, family⟩, fun isa member => strongest isa member.1 member.2⟩, rfl⟩
  · rintro ⟨best, ⟨⟨listed, family⟩, strongest⟩, rfl⟩
    exact ⟨best, listed, family, fun isa listed family => strongest ⟨listed, family⟩, rfl⟩

theorem nativeCpu?_of_isGreatest (strongest : IsGreatest (host.isasIn arch.family) best) :
    host.nativeCpu? arch = some (Cpu.baseline best arch) :=
  nativeCpu?_eq_some_iff_isGreatest.2 ⟨best, strongest, rfl⟩

theorem exists_isGreatest (listed : isa ∈ host.isasIn arch.family) :
    ∃ best, IsGreatest (host.isasIn arch.family) best := by
  cases found : host.nativeCpu? arch with
  | none => exact absurd listed.2 (nativeCpu?_eq_none_iff.1 found isa listed.1)
  | some cpu =>
      obtain ⟨best, strongest, -⟩ := nativeCpu?_eq_some_iff_isGreatest.1 found
      exact ⟨best, strongest⟩

theorem nativeCpu?_congr (same : other.isasIn arch.family = host.isasIn arch.family) :
    other.nativeCpu? arch = host.nativeCpu? arch := by
  refine Option.ext fun cpu => ?_
  rw [nativeCpu?_eq_some_iff_isGreatest, nativeCpu?_eq_some_iff_isGreatest, same]

/-! ## Requests for the native processor -/

theorem unknownCpu_of_native (asked : request.cpu = some TargetRequest.nativeName) {text : String}
    (failed : Target.create host toolkit request = .error (.unknownCpu text)) :
    toolkit.triple request.effectiveArch request.os = .error (.unknownCpu text) := by
  cases Target.create_eq_error_iff_firstFault.1 failed with
  | name _ _ named other => exact absurd (Option.some.inj (named.symm.trans asked)) other
  | triple _ _ _ refused => exact refused

/-- A request is turned down for the native processor if that does not run its code. A toolkit may
give the same fault for its triple. -/
theorem incompatibleCpu_of_native (asked : request.cpu = some TargetRequest.nativeName)
    {target : VectorTarget}
    (failed : Target.create host toolkit request = .error (.incompatibleCpu cpu target)) :
    toolkit.triple request.effectiveArch request.os = .error (.incompatibleCpu cpu target) ∨
      request.effectiveArch.family = request.isa.family ∧
      cpu = (host.nativeCpu? request.effectiveArch).getD
        (Cpu.baseline request.isa request.effectiveArch) ∧
      ¬cpu.executes request.isa request.effectiveArch := by
  cases Target.create_eq_error_iff_firstFault.1 failed with
  | cpu _ family chosen unable =>
      have settled := chooseCpu_of_chosenCpu chosen
      rw [chooseCpu_native asked, Except.ok.injEq] at settled
      exact .inr ⟨family, settled.symm, unable⟩
  | triple _ _ _ refused => exact .inl refused

theorem create_of_native_unable (asked : request.cpu = some TargetRequest.nativeName)
    (family : request.effectiveArch.family = request.isa.family)
    (found : host.nativeCpu? request.effectiveArch = some cpu)
    (unable : ¬cpu.executes request.isa request.effectiveArch) :
    Target.create host toolkit request = .error (.incompatibleCpu cpu request.target) := by
  have settled : chooseCpu host request request.effectiveArch = .ok cpu := by
    rw [chooseCpu_native asked, found, Option.getD_some]
  exact Target.create_eq_error_iff_firstFault.2 (.cpu cpu family (chooseCpu_eq_ok.1 settled) unable)

/-- The processor is no cause to turn a request down. A toolkit may give that fault for its triple,
and the built-in one does not. -/
structure AdmitsCpu (host : Host) (request : TargetRequest) : Prop where
  any : ∀ toolkit cpu target,
    Target.create host toolkit request = .error (.incompatibleCpu cpu target) →
    toolkit.triple request.effectiveArch request.os = .error (.incompatibleCpu cpu target)
  builtin : ∀ cpu target,
    Target.create host .builtin request ≠ .error (.incompatibleCpu cpu target)

theorem forPlatform_error {arch : Arch} {os : Os} {failure : TargetFault}
    (failed : Toolkit.builtin.triple arch os = .error failure) :
    failure = .unsupportedOs arch os :=
  (orFail_eq_error.1 failed).2.symm

theorem admitsCpu_of_native (asked : request.cpu = some TargetRequest.nativeName)
    (executes : request.effectiveArch.family = request.isa.family →
      ((host.nativeCpu? request.effectiveArch).getD
        (Cpu.baseline request.isa request.effectiveArch)).executes
          request.isa request.effectiveArch) :
    host.AdmitsCpu request := by
  have any (toolkit : Toolkit) (cpu : Cpu) (target : VectorTarget)
      (failed : Target.create host toolkit request = .error (.incompatibleCpu cpu target)) :
      toolkit.triple request.effectiveArch request.os = .error (.incompatibleCpu cpu target) := by
    rcases incompatibleCpu_of_native asked failed with refused | ⟨family, rfl, unable⟩
    · exact refused
    · exact absurd (executes family) unable
  refine ⟨any, fun cpu target failed => ?_⟩
  cases forPlatform_error (any .builtin cpu target failed)

theorem native_executes (family : request.effectiveArch.family = request.isa.family)
    (suits : IsGreatest (host.isasIn request.isa.family) request.isa ∨
      host.isasIn request.isa.family = ∅) :
    ((host.nativeCpu? request.effectiveArch).getD
      (Cpu.baseline request.isa request.effectiveArch)).executes
        request.isa request.effectiveArch := by
  have runs := Cpu.baseline_executes family.symm
  rw [← family] at suits
  rcases suits with strongest | strange
  · rwa [nativeCpu?_of_isGreatest strongest]
  · have none : host.nativeCpu? request.effectiveArch = none :=
      nativeCpu?_eq_none_iff.2 fun isa listed same =>
        Set.notMem_empty isa (strange ▸ ⟨listed, same⟩)
    rwa [none]

theorem nativeCpu?_strongest (host : Host) (arch : Arch) :
    (host.nativeCpu? arch = none ↔ ∀ isa ∈ host.isas, isa.family ≠ arch.family) ∧
    (∀ isa ∈ host.isas, isa.family = arch.family →
      ∃ best, IsGreatest (host.isasIn arch.family) best ∧
        ∃ cpu ∈ Cpu.all, host.nativeCpu? arch = some cpu ∧ cpu.executes best arch) ∧
    (∀ other : Host, other.isasIn arch.family = host.isasIn arch.family →
      other.nativeCpu? arch = host.nativeCpu? arch) ∧
    (∀ other : Host, (other.isas.filter (·.family = arch.family)).Perm
        (host.isas.filter (·.family = arch.family)) →
      other.nativeCpu? arch = host.nativeCpu? arch) ∧
    ∀ request : TargetRequest, request.cpu = some TargetRequest.nativeName →
      (∀ toolkit text, Target.create host toolkit request = .error (.unknownCpu text) →
        toolkit.triple request.effectiveArch request.os = .error (.unknownCpu text)) ∧
      (∀ text, Target.create host .builtin request ≠ .error (.unknownCpu text)) ∧
      (IsGreatest (host.isasIn request.isa.family) request.isa ∨
        host.isasIn request.isa.family = ∅ → host.AdmitsCpu request) := by
  refine ⟨nativeCpu?_eq_none_iff, fun isa listed family => ?_, fun other => nativeCpu?_congr,
    fun other permuted => nativeCpu?_congr ?_, fun request asked => ⟨?_, ?_, fun suits => ?_⟩⟩
  · obtain ⟨best, strongest⟩ := exists_isGreatest ⟨listed, family⟩
    exact ⟨best, strongest, _, Cpu.mem_all _, nativeCpu?_of_isGreatest strongest,
      Cpu.baseline_executes strongest.1.2⟩
  · ext isa
    have same := permuted.mem_iff (a := isa)
    rwa [List.mem_filter, List.mem_filter, decide_eq_true_eq] at same
  · exact fun toolkit text => unknownCpu_of_native asked
  · intro text failed
    cases forPlatform_error (unknownCpu_of_native asked failed)
  · exact admitsCpu_of_native asked fun family => native_executes family suits

end Host

namespace X86Features

variable {features : X86Features} {os : Os}

def host (features : X86Features) (os : Os) : Host := ⟨features.isas, os⟩

def TopsOutWithoutVnni (features : X86Features) : Prop :=
  ∃ best ∈ [Isa.avx512knl, .avx512skx, .avx512icl], IsGreatest {isa | isa ∈ features.isas} best

theorem mem_isas_iff : isa ∈ features.isas ↔ (true, isa) ∈ features.ladder := by
  simp [isas]

theorem family_of_mem (listed : isa ∈ features.isas) : isa.family = .x86 := by
  have row := mem_isas_iff.1 listed
  revert row
  cases isa <;> simp [ladder, Isa.family]

theorem le_knl (apart : ¬(features.avx512Knl ∧ features.avx512Skx))
    (knights : .avx512knl ∈ features.isas) (listed : isa ∈ features.isas) : isa ≤ .avx512knl := by
  have group : features.avx512Knl = true := by simpa [ladder] using mem_isas_iff.1 knights
  have without : features.avx512Skx = false := by simpa [group] using apart
  have row := mem_isas_iff.1 listed
  -- Every set above needs the AVX-512 groups that the host is without.
  cases isa <;> first | decide | simp [ladder, without] at row

theorem isasIn_host (x86 : arch.family = .x86) :
    (features.host os).isasIn arch.family = {isa | isa ∈ features.isas} := by
  ext isa
  rw [x86]
  exact and_iff_left_of_imp family_of_mem

theorem baseline_executes_iff (apart : ¬(features.avx512Knl ∧ features.avx512Skx))
    (x86 : arch.family = .x86) (strongest : IsGreatest {isa | isa ∈ features.isas} best)
    (listed : isa ∈ features.isas) : (Cpu.baseline best arch).executes isa arch ↔
      ¬(isa = .avx2vnni ∧ best ∈ [Isa.avx512knl, .avx512skx, .avx512icl]) := by
  have top : (Cpu.baseline best arch).maxIsa = best := Cpu.baseline_maxIsa best arch
  have below : isa ≤ best := strongest.2 listed
  have family : best.family = .x86 := family_of_mem strongest.1
  -- Nothing stands above Knights Landing, so that it is the strongest set where it is listed.
  have lineage (knights : isa = .avx512knl) : best = .avx512knl :=
    Isa.le_antisymm (le_knl apart (knights ▸ listed) strongest.1) (knights ▸ below)
  rw [Cpu.executes_iff_runs x86 (by rw [Cpu.family, top, family]) (family_of_mem listed),
    Cpu.runs_iff_of_le (by rwa [top]), Cpu.has_avxVnni_iff, top, and_iff_right lineage, not_and]
  refine imp_congr_right fun feature => ?_
  rw [feature] at below
  revert below family
  cases best <;> decide

theorem native_executes_iff (apart : ¬(features.avx512Knl ∧ features.avx512Skx))
    (x86 : arch.family = .x86) (found : (features.host os).nativeCpu? arch = some cpu)
    (listed : isa ∈ features.isas) :
    cpu.executes isa arch ↔ ¬(isa = .avx2vnni ∧ features.TopsOutWithoutVnni) := by
  obtain ⟨best, strongest, rfl⟩ := Host.nativeCpu?_eq_some_iff_isGreatest.1 found
  rw [isasIn_host x86] at strongest
  rw [baseline_executes_iff apart x86 strongest listed]
  refine not_congr (and_congr_right fun _ => ⟨fun member => ⟨best, member, strongest⟩, ?_⟩)
  rintro ⟨other, member, top⟩
  rwa [Isa.le_antisymm (strongest.2 top.1) (top.2 strongest.1)] at member

theorem native_runs_listed (features : X86Features) (os : Os) (arch : Arch)
    (apart : ¬(features.avx512Knl ∧ features.avx512Skx)) (x86 : arch.family = .x86) :
    ((features.host os).nativeCpu? arch = none ↔ features.isas = []) ∧
    (∀ cpu, (features.host os).nativeCpu? arch = some cpu → ∀ isa ∈ features.isas,
      (cpu.executes isa arch ↔ ¬(isa = .avx2vnni ∧ features.TopsOutWithoutVnni))) ∧
    ∀ request : TargetRequest, request.cpu = some TargetRequest.nativeName →
      request.effectiveArch = arch → request.isa ∈ features.isas →
      (request.isa = .avx2vnni ∧ features.TopsOutWithoutVnni →
        ∃ cpu, (features.host os).nativeCpu? arch = some cpu ∧ ∀ toolkit,
          Target.create (features.host os) toolkit request =
            .error (.incompatibleCpu cpu request.target)) ∧
      (¬(request.isa = .avx2vnni ∧ features.TopsOutWithoutVnni) →
        (features.host os).AdmitsCpu request) := by
  have runs (cpu : Cpu) (found : (features.host os).nativeCpu? arch = some cpu) (isa : Isa)
      (listed : isa ∈ features.isas) := native_executes_iff apart x86 found listed
  refine ⟨?_, runs, ?_⟩
  · rw [Host.nativeCpu?_eq_none_iff, x86, List.eq_nil_iff_forall_not_mem]
    exact forall₂_congr fun isa listed => not_iff_false_intro (family_of_mem listed)
  · rintro request asked rfl listed
    have family := x86.trans (family_of_mem listed).symm
    have among : request.isa ∈ (features.host os).isasIn request.effectiveArch.family :=
      ⟨listed, family.symm⟩
    obtain ⟨best, strongest⟩ := Host.exists_isGreatest among
    have found := Host.nativeCpu?_of_isGreatest strongest
    have iff := runs _ found _ listed
    refine ⟨fun lacking => ⟨_, found, fun toolkit => ?_⟩, fun suited => ?_⟩
    · exact Host.create_of_native_unable asked family found (mt iff.1 (not_not.2 lacking))
    · refine Host.admitsCpu_of_native asked fun _ => ?_
      rw [found]
      exact iff.2 suited

def iceLakeWithVnni : X86Features :=
  { sse2 := true, sse41 := true, sse42 := true, avx := true, avx2 := true, avxVnni := true,
    avx512Skx := true, avx512Icl := true }

theorem native_runs_listed_avx2 :
    ((iceLakeWithVnni.host .linux).nativeCpu? .x8664 = some .icelakeClient ∧
      Isa.avx2 ∈ iceLakeWithVnni.isas) ∧ Cpu.icelakeClient.executes .avx2 .x8664 := by
  have found : (iceLakeWithVnni.host .linux).nativeCpu? .x8664 = some .icelakeClient := by decide
  have listed : Isa.avx2 ∈ iceLakeWithVnni.isas := by decide
  have whole := native_runs_listed iceLakeWithVnni .linux .x8664 (by decide) rfl
  exact ⟨⟨found, listed⟩, (whole.2.1 _ found _ listed).2 fun other => absurd other.1 (by decide)⟩

/-- A host lists AVX-VNNI, and a request for it on the processor that stands for the host is turned
down. -/
theorem native_lacks_listed_vnni :
    ¬(iceLakeWithVnni.avx512Knl ∧ iceLakeWithVnni.avx512Skx) ∧
    Isa.avx2vnni ∈ iceLakeWithVnni.isas ∧
    (iceLakeWithVnni.host .linux).nativeCpu? .x8664 = some .icelakeClient ∧
    ¬Cpu.icelakeClient.executes .avx2vnni .x8664 ∧
    ∃ request : TargetRequest, request.cpu = some TargetRequest.nativeName ∧
      request.effectiveArch = .x8664 ∧ request.isa = .avx2vnni ∧
      ∀ toolkit, Target.create (iceLakeWithVnni.host .linux) toolkit request =
        .error (.incompatibleCpu .icelakeClient request.target) := by
  refine ⟨by decide, by decide, by decide, by decide,
    { cpu := some TargetRequest.nativeName, target := Isa.avx2vnni.defaultTarget, os := .linux },
    rfl, by decide, by decide, fun toolkit => ?_⟩
  exact Host.create_of_native_unable rfl (by decide) (by decide) (by decide)

end X86Features

end Lanewise
