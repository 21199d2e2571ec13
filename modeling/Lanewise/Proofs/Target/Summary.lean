import Lanewise.Proofs.Config.Record
import Lanewise.Proofs.Target.Reports
import Lanewise.Report.Target
import Lanewise.Toolkit.Builtin

namespace Lanewise

structure Target.SameAnswers (first second : Target) : Prop where
  summary : second.summary = first.summary
  features : second.features = first.features
  attributeList : ∀ limitZmm, second.attributeList limitZmm = first.attributeList limitZmm
  callingConv : second.callingConv = first.callingConv
  dataLayout? : second.dataLayout? = first.dataLayout?
  hasIntrinsic : ∀ name, second.hasIntrinsic name = first.hasIntrinsic name
  policy : ∀ opt, ({ target := second, opt } : Policy).decisions
    = ({ target := first, opt } : Policy).decisions
  render : ∀ opt format, ({ target := second, opt } : Policy).render format
    = ({ target := first, opt } : Policy).render format

namespace Target

/-- The target that the summary of a target asks for when it is read as a request. Only the choices
of position independence and code model are not in the summary. -/
def restate (host : Host) (toolkit : Toolkit) (format : DocumentFormat) (target : Target) :
    Except Misfit Target :=
  ((TargetRequest.record host).read format (.map target.summary)).map fun request =>
    build host toolkit
      { request with pic := target.request.pic, codeModel := target.request.codeModel }

variable {first second : Target}

/-! ## Targets that answer alike -/

structure Alike (first second : Target) : Prop where
  outcome : second.outcome = first.outcome
  vectorTarget : second.vectorTarget = first.vectorTarget
  arch : second.arch = first.arch
  os : second.os = first.os
  cpuName : second.cpuName = first.cpuName

namespace Alike

theorem isa (alike : first.Alike second) : second.isa = first.isa :=
  congrArg VectorTarget.isa alike.vectorTarget

theorem error? (alike : first.Alike second) : second.error? = first.error? := by
  rw [Target.error?, Target.error?, alike.outcome]

theorem isValid (alike : first.Alike second) : second.isValid = first.isValid := by
  rw [Target.isValid, Target.isValid, alike.error?]

theorem parts? (alike : first.Alike second) : second.parts? = first.parts? := by
  rw [Target.parts?, Target.parts?, alike.outcome]

theorem profile (alike : first.Alike second) : second.profile = first.profile := by
  rw [Target.profile, Target.profile, alike.parts?, alike.vectorTarget]

theorem tripleText (alike : first.Alike second) : second.tripleText = first.tripleText := by
  rw [Target.tripleText, Target.tripleText, triple?, triple?, alike.parts?]

theorem dataLayout? (alike : first.Alike second) : second.dataLayout? = first.dataLayout? := by
  rw [Target.dataLayout?, Target.dataLayout?, alike.parts?]

theorem summary (alike : first.Alike second) : second.summary = first.summary := by
  rw [Target.summary, Target.summary, dataLayoutText?, dataLayoutText?, alike.isValid,
    alike.error?, alike.vectorTarget, alike.isa, alike.arch, alike.cpuName, alike.os,
    alike.tripleText, alike.profile, alike.dataLayout?]

theorem attributeList (alike : first.Alike second) (limitZmm : Bool) :
    second.attributeList limitZmm = first.attributeList limitZmm := by
  rw [Target.attributeList, Target.attributeList, alike.isValid, alike.cpuName, features, features,
    vectorWidth, vectorWidth, alike.profile, alike.isa]

theorem callingConv (alike : first.Alike second) : second.callingConv = first.callingConv := by
  rw [Target.callingConv, Target.callingConv, alike.isa, alike.os]

theorem hasIntrinsic (alike : first.Alike second) (name : String) :
    second.hasIntrinsic name = first.hasIntrinsic name := by
  simp only [Target.hasIntrinsic, machine?, alike.parts?, admitsIntrinsic, alike.isa, alike.arch]

end Alike

end Target

namespace Policy

variable {first second : Policy}

structure Alike (first second : Policy) : Prop where
  target : first.target.Alike second.target
  opt : second.opt = first.opt

namespace Alike

theorem gather (alike : first.Alike second) : second.gather = first.gather := by
  simp only [Policy.gather, usesGather, Target.capabilities, alike.target.profile, alike.opt]

theorem scatter (alike : first.Alike second) : second.scatter = first.scatter := by
  simp only [Policy.scatter, usesScatter, Target.capabilities, alike.target.profile, alike.opt]

theorem maskedStore (alike : first.Alike second) : second.maskedStore = first.maskedStore := by
  rw [Policy.maskedStore, Policy.maskedStore, alike.target.profile, alike.target.isValid, alike.opt]

theorem fusesMultiplyAdd (alike : first.Alike second) :
    second.fusesMultiplyAdd = first.fusesMultiplyAdd := by
  simp only [Policy.fusesMultiplyAdd, Target.capabilities, alike.target.profile, alike.opt]

theorem coalesces (alike : first.Alike second) : second.coalesces = first.coalesces := by
  rw [Policy.coalesces, Policy.coalesces, alike.target.isValid, alike.opt]

theorem usesZmm (alike : first.Alike second) : second.usesZmm = first.usesZmm := by
  rw [Policy.usesZmm, Policy.usesZmm, alike.target.isa, alike.target.isValid, alike.opt]

theorem keepsAsserts (alike : first.Alike second) : second.keepsAsserts = first.keepsAsserts := by
  rw [Policy.keepsAsserts, Policy.keepsAsserts, alike.opt]

theorem force32BitAddressing (alike : first.Alike second) :
    second.force32BitAddressing = first.force32BitAddressing := by
  rw [Policy.force32BitAddressing, Policy.force32BitAddressing, Target.is32Bit, Target.is32Bit,
    alike.target.arch, alike.opt]

theorem attributes (alike : first.Alike second) : second.attributes = first.attributes := by
  rw [Policy.attributes, Policy.attributes, Target.addAttributes, Target.addAttributes, alike.opt,
    alike.target.attributeList]

theorem pitfalls (alike : first.Alike second) : second.pitfalls = first.pitfalls := by
  rw [Policy.pitfalls, Policy.pitfalls, Target.relevantPitfalls, Target.relevantPitfalls,
    alike.target.profile]

theorem decisions (alike : first.Alike second) : second.decisions = first.decisions := by
  rw [Policy.decisions, Policy.decisions, alike.gather, alike.scatter, alike.maskedStore,
    alike.fusesMultiplyAdd, alike.coalesces, alike.usesZmm, alike.keepsAsserts,
    alike.force32BitAddressing, alike.opt]

theorem report (alike : first.Alike second) : second.report = first.report := by
  rw [Policy.report, Policy.report, alike.target.summary, alike.opt, alike.target.callingConv,
    alike.attributes, alike.decisions, alike.pitfalls]

theorem reportText (alike : first.Alike second) : second.reportText = first.reportText := by
  have headLines : second.headLines = first.headLines := by
    simp only [Policy.headLines, Target.features, Target.dataLayoutText?,
      alike.target.vectorTarget, alike.target.isa, alike.target.cpuName, alike.target.arch,
      alike.target.os, alike.target.tripleText, alike.target.profile, alike.target.callingConv,
      alike.target.dataLayout?]
  have geometryLines : second.geometryLines = first.geometryLines := by
    rw [Policy.geometryLines, Policy.geometryLines, alike.target.profile]
  have capabilityLines : second.capabilityLines = first.capabilityLines := by
    simp only [Policy.capabilityLines, capabilityNames, Target.capabilities, alike.target.profile]
  have decisionLines : second.decisionLines = first.decisionLines := by
    rw [Policy.decisionLines, Policy.decisionLines, alike.gather, alike.scatter,
      alike.maskedStore, alike.fusesMultiplyAdd, alike.coalesces, alike.usesZmm,
      alike.keepsAsserts, alike.force32BitAddressing, alike.attributes, alike.opt]
  have pitfallLines : second.pitfallLines = first.pitfallLines := by
    rw [Policy.pitfallLines, Policy.pitfallLines, alike.pitfalls]
  rw [Policy.reportText, Policy.reportText, headLines, geometryLines, capabilityLines,
    decisionLines, pitfallLines]

theorem render (alike : first.Alike second) (format : ReportFormat) :
    second.render format = first.render format := by
  cases format with
  | human => exact alike.reportText
  | json => rw [Policy.render, Policy.render, alike.report]

end Alike

end Policy

namespace Target

variable {target first second : Target} {host other : Host} {toolkit : Toolkit}
  {request : TargetRequest} {parts : TargetParts} {format : DocumentFormat}

theorem Alike.sameAnswers (alike : first.Alike second) : first.SameAnswers second where
  summary := alike.summary
  features := congrArg Profile.features alike.profile
  attributeList := alike.attributeList
  callingConv := alike.callingConv
  dataLayout? := alike.dataLayout?
  hasIntrinsic := alike.hasIntrinsic
  policy _ := Policy.Alike.decisions ⟨alike, rfl⟩
  render _ := Policy.Alike.render ⟨alike, rfl⟩

/-! ## The request of a summary -/

def restated (target : Target) : TargetRequest where
  arch := target.arch
  cpu := target.cpuName
  target := target.vectorTarget
  os := target.os
  pic := target.request.pic
  codeModel := target.request.codeModel

theorem known_summary (valid : target.error? = none) :
    (target.summary.filter fun entry => ((TargetRequest.record host).field? entry.1).isSome) =
      [("target", .text target.vectorTarget.name), ("arch", .keyword target.arch),
        ("cpu", .text target.cpuName), ("os", .keyword target.os)] := by
  have keys : (TargetRequest.record host).fields.map (·.key) =
    ["arch", "cpu", "target", "os", "pic", "code-model", "print-target"] := rfl
  simp only [Record.isSome_field?, keys]
  cases layout : target.dataLayoutText? <;>
    simp [summary, Profile.entries, Document.entry?, valid, layout]

theorem read_summary (valid : target.isValid) (host : Host) (format : DocumentFormat) :
    (TargetRequest.record host).read format (.map target.summary) =
      .ok { target.restated with pic := .default, codeModel := .default } := by
  rw [isValid, Option.isNone_iff_eq_none] at valid
  let record := TargetRequest.record host
  let fields := ["target", "arch", "cpu", "os"].filterMap record.field?
  have listed : ∀ field ∈ fields, field ∈ record.fields := fun field member => by
    obtain ⟨key, -, found⟩ := List.mem_filterMap.1 member
    exact List.mem_of_find?_eq_some found
  have written : Document.SimilarEntries (Record.written fields target.restated)
      (target.summary.filter fun entry => (record.field? entry.1).isSome) := by
    rw [known_summary valid]
    refine Document.similarEntries_self _ ?_
    rfl
  have read := Record.foldlM_storeEntry format
    (fun field member => Record.field?_eq_some LawfulRecord.keys_nodup (listed field member))
    (fun field member => LawfulRecord.lawful field (listed field member)) written record.base
  have copied :
      fields.foldl (fun request field => field.copy target.restated request) record.base =
        { target.restated with pic := .default, codeModel := .default } := by
    simp [fields, record, Record.field?, TargetRequest.record, restated, TargetRequest.onHost,
      TargetRequest.forTarget]
  rw [Record.read, Record.readMap, Record.foldlM_known, read, copied]
  rfl

theorem restate_eq (valid : target.isValid) :
    target.restate host toolkit format = .ok (build host toolkit target.restated) := by
  rw [restate, read_summary valid, Except.map]
  rfl

/-! ## The second target -/

theorem name_ne_native (cpu : Cpu) : cpu.name ≠ TargetRequest.nativeName := by
  cases cpu <;> decide

theorem chosenCpu_restated {cpu : Cpu} (named : target.cpuName = cpu.name) :
    ChosenCpu host target.restated cpu :=
  .named cpu cpu.name (congrArg some named) (name_ne_native cpu) (.inl rfl)

theorem met_restated (met : Met host toolkit request parts) (asked : target.request = request)
    (named : target.cpuName = parts.cpu.name) : Met other toolkit target.restated parts where
  suits := by
    subst asked
    exact ⟨met.suits.family, chosenCpu_restated named, met.suits.executes⟩
  profile := by
    subst asked
    exact met.profile
  triple := by
    subst asked
    exact met.triple
  machine := by
    subst asked
    exact met.machine
  dataLayout := met.dataLayout

theorem alike_rebuild (kept : target.outcome = assemble host toolkit target.request) :
    target.Alike (target.rebuild host toolkit) where
  outcome := kept.symm
  vectorTarget := rfl
  arch := rfl
  os := rfl
  cpuName := by
    rw [cpuName, cpuName, parts?, parts?, kept]
    rfl

theorem outcome_restated (kept : target.outcome = assemble host toolkit target.request)
    (made : target.outcome = .ok parts) :
    (build other toolkit target.restated).outcome = .ok parts :=
  assemble_eq_ok.2
    (met_restated (assemble_eq_ok.1 (kept ▸ made)) rfl (cpuName_of_ok made))

theorem alike_restated (other : Host)
    (kept : target.outcome = assemble host toolkit target.request)
    (made : target.outcome = .ok parts) :
    target.Alike (build other toolkit target.restated) where
  outcome := (outcome_restated kept made).trans made.symm
  vectorTarget := rfl
  arch := rfl
  os := rfl
  cpuName := by rw [cpuName_of_ok made, cpuName_of_ok (outcome_restated kept made)]

theorem restated_build_restated (alike : target.Alike (build host toolkit target.restated)) :
    (build host toolkit target.restated).restated = target.restated := by
  rw [restated, alike.arch, alike.cpuName, alike.vectorTarget, alike.os]
  rfl

/-- What an absent processor, an alias and the host's own come to is a name that stands for itself,
on every host. -/
theorem made_again (host other : Host) (toolkit : Toolkit) (request : TargetRequest)
    (format : DocumentFormat) (calls : List ReportCall) :
    let target := (build host toolkit request).noted calls
    target.request = request ∧
    (target.rebuild host toolkit).reported = .empty ∧
    target.SameAnswers (target.rebuild host toolkit) ∧
    (target.isValid → ∃ again cpu,
      target.restate other toolkit format = .ok again ∧
      again.isValid ∧ target.SameAnswers again ∧
      again.restate other toolkit format = .ok again ∧
      ChosenCpu host request cpu ∧ target.cpuName = cpu.name ∧
      again.request.cpu = some cpu.name ∧ ChosenCpu other again.request cpu) := by
  intro target
  obtain ⟨reported, noted⟩ := (build host toolkit request).noted_eq calls
  have asked : target.request = request := congrArg Target.request noted
  have kept : target.outcome = assemble host toolkit target.request := by
    rw [asked]
    exact congrArg outcome noted
  refine ⟨asked, rfl, (alike_rebuild kept).sameAnswers, fun valid => ?_⟩
  obtain ⟨parts, made⟩ := isValid_iff.1 valid
  have named := cpuName_of_ok made
  have chosen := (assemble_eq_ok.1 (kept ▸ made)).suits.chosen
  have alike := alike_restated other kept made
  have again_valid := alike.isValid.trans valid
  refine ⟨build other toolkit target.restated, parts.cpu, restate_eq valid, again_valid,
    alike.sameAnswers, ?_, asked ▸ chosen, named, congrArg some named, chosenCpu_restated named⟩
  rw [restate_eq again_valid, restated_build_restated alike]

theorem made_again_alias :
    let target := build .unknown .builtin
      { cpu := some "core-avx2", target := Isa.avx2.defaultTarget, os := .linux }
    ∃ again, target.restate .unknown .builtin .json = .ok again ∧
      again.request.cpu = some "haswell" ∧ target.SameAnswers again := by
  intro target
  have valid : target.isValid := by decide +kernel
  obtain ⟨-, -, -, restated⟩ := made_again .unknown .unknown .builtin target.request .json []
  obtain ⟨again, cpu, made, -, same, -, -, named, asked, -⟩ := restated valid
  have haswell : target.cpuName = "haswell" := by decide +kernel
  exact ⟨again, made, asked.trans (congrArg some (named.symm.trans haswell)), same⟩

end Target

end Lanewise
