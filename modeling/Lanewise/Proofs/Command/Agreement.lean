import Lanewise.Command.Check
import Lanewise.Command.Describe
import Lanewise.Proofs.Config.Build
import Lanewise.Proofs.Config.Record
import Lanewise.Proofs.Report

namespace Lanewise

theorem Keyword.eq_word_of_ofWord? {α : Type} [Keyword α] {text : String} {value : α}
    (found : Keyword.ofWord? text = some value) : text = Keyword.word value := by
  rw [Keyword.ofWord?] at found
  have same := List.find?_some found
  exact (beq_iff_eq.1 same).symm

theorem Arch.parse_word (arch : Arch) : Arch.parse (Keyword.word arch) = .ok arch := by
  cases arch <;> decide

theorem Os.parse_word (os : Os) : Os.parse (Keyword.word os) = .ok os := by
  cases os <;> decide

namespace Description

variable {host : Host} {toolkit : Toolkit} {words : Description} {format : DocumentFormat}
  {request next : TargetRequest} {config : Config}

theorem foldlM_optional {σ α ε : Type} {key : String} {write : α → Document} {value : Option α}
    {step : σ → String × Document → Except ε σ} {before : σ} :
    (Document.entry? key write value).foldlM step before =
      value.elim (.ok before) fun value => step before (key, write value) := by
  cases value with
  | none => rfl
  | some value => simp [Document.entry?]

def targetEntries (words : Description) : List (String × Document) :=
  Document.entry? "target" .text words.target ++ Document.entry? "cpu" .text words.cpu
    ++ Document.entry? "arch" .text words.arch ++ Document.entry? "os" .text words.os

/-- A configuration with exactly the words of a description, in the sections where they belong. -/
def document (words : Description) : Document :=
  .map [("target", .map words.targetEntries), ("codegen", .map [("opt-flags", .texts words.flags)])]

theorem store_target {name : Option String}
    (stored : (Document.entry? "target" .text name).foldlM
      ((TargetRequest.record host).storeEntry format) request = .ok next) :
    ∃ target, name.mapM VectorTarget.parse = .ok target ∧
      next = { request with target := target.getD request.target } := by
  have found : (TargetRequest.record host).field? "target" =
      some (.of "target" .vectorTarget (·.target) fun target request => { request with target }) :=
    rfl
  cases name with
  | none => exact ⟨none, rfl, (Except.ok.inj stored).symm⟩
  | some name =>
      simp only [foldlM_optional, Option.elim_some, Record.storeEntry, found, Field.of,
        Codec.vectorTarget, Codec.text, Codec.textAs, ok_bind] at stored
      obtain ⟨target, parsed, rfl⟩ := map_eq_ok.1 stored
      exact ⟨some target, by rw [Option.mapM_some, mapError_eq_ok.1 parsed]; rfl, rfl⟩

theorem store_cpu {name : Option String} (absent : request.cpu = none)
    (stored : (Document.entry? "cpu" .text name).foldlM
      ((TargetRequest.record host).storeEntry format) request = .ok next) :
    next = { request with cpu := name } := by
  cases name with
  | none => rw [← absent, ← Except.ok.inj stored]
  | some name => exact (Except.ok.inj stored).symm

theorem store_arch {name : Option String} (absent : request.arch = none)
    (stored : (Document.entry? "arch" .text name).foldlM
      ((TargetRequest.record host).storeEntry format) request = .ok next) :
    ∃ arch, name.mapM Arch.parse = .ok arch ∧ next = { request with arch } := by
  cases name with
  | none => exact ⟨none, rfl, by rw [← absent, ← Except.ok.inj stored]⟩
  | some name =>
      have read : (((Codec.readVariant name).map some).map
          fun arch => { request with arch }) = .ok next := by
        rwa [foldlM_optional] at stored
      obtain ⟨_, found, rfl⟩ := map_eq_ok.1 read
      obtain ⟨arch, word, rfl⟩ := map_eq_ok.1 found
      rw [Keyword.eq_word_of_ofWord? (orFail_eq_ok.1 word)]
      exact ⟨some arch, by rw [Option.mapM_some, arch.parse_word]; rfl, rfl⟩

theorem store_os {name : Option String}
    (stored : (Document.entry? "os" .text name).foldlM
      ((TargetRequest.record host).storeEntry format) request = .ok next) :
    ∃ os, name.mapM Os.parse = .ok os ∧ next = { request with os := os.getD request.os } := by
  cases name with
  | none => exact ⟨none, rfl, (Except.ok.inj stored).symm⟩
  | some name =>
      have read : ((Codec.readVariant name).map fun os => { request with os }) = .ok next := by
        rwa [foldlM_optional] at stored
      obtain ⟨os, word, rfl⟩ := map_eq_ok.1 read
      rw [Keyword.eq_word_of_ofWord? (orFail_eq_ok.1 word)]
      exact ⟨some os, by rw [Option.mapM_some, os.parse_word]; rfl, rfl⟩

theorem request_of_read
    (read : (TargetRequest.record host).read format (.map words.targetEntries) = .ok request) :
    words.request host = .ok request := by
  obtain ⟨_, stored, done⟩ := bind_eq_ok.1 read
  obtain rfl := Except.ok.inj done
  simp only [targetEntries, List.foldlM_append, bind_eq_ok] at stored
  obtain ⟨_, ⟨_, ⟨_, stored_target, stored_cpu⟩, stored_arch⟩, stored_os⟩ := stored
  obtain ⟨target, parsed_target, rfl⟩ := store_target stored_target
  obtain rfl := store_cpu rfl stored_cpu
  obtain ⟨arch, parsed_arch, rfl⟩ := store_arch rfl stored_arch
  obtain ⟨os, parsed_os, rfl⟩ := store_os stored_os
  rw [Description.request, parsed_target, parsed_arch, parsed_os]
  rfl

theorem codegen_of_read (flags : List String) (format : DocumentFormat) :
    Config.Codegen.record.read format (.map [("opt-flags", .texts flags)]) =
      .ok { optFlags := flags } := by
  have found : Config.Codegen.record.field? "opt-flags" =
      some (.of "opt-flags" (.list .text) (·.optFlags)
        fun optFlags codegen => { codegen with optFlags }) := rfl
  have read : (Codec.list .text).read format (.texts flags) = .ok flags :=
    Codec.read_write _ _ flags
  rw [Record.read, Record.readMap, List.foldlM_cons, Record.storeEntry, found]
  simp only [Field.of, read]
  rfl

theorem config_of_read (decodes : (Config.record host).read format words.document = .ok config) :
    ∃ request, words.request host = .ok request ∧
      config = { target := request, codegen := { optFlags := words.flags } } := by
  have found_target : (Config.record host).field? "target" =
      some (.of "target" (TargetRequest.record host).codec (·.target)
        fun target config => { config with target }) := rfl
  have found_codegen : (Config.record host).field? "codegen" =
      some (.of "codegen" Config.Codegen.record.codec (·.codegen)
        fun codegen config => { config with codegen }) := rfl
  obtain ⟨_, stored, done⟩ := bind_eq_ok.1 decodes
  obtain rfl := Except.ok.inj done
  simp only [List.foldlM_cons, List.foldlM_nil, bind_eq_ok, Record.storeEntry, found_target,
    found_codegen, Field.of, Record.codec, codegen_of_read, map_eq_ok, pure_eq_ok] at stored
  obtain ⟨_, ⟨request, read, rfl⟩, _, ⟨_, ⟨⟩, rfl⟩, rfl⟩ := stored
  exact ⟨request, request_of_read read, rfl⟩

theorem policy_eq_ok {policy : Policy} (asked : words.request host = .ok request)
    (same : config = { target := request, codegen := { optFlags := words.flags } }) :
    words.policy host toolkit = .ok policy ↔
      config.Accepted ∧ ∃ target, Target.create host toolkit config.target = .ok target ∧
        { target, opt := config.opt.withFlags config.codegen.optFlags } = policy := by
  subst same
  simp only [Description.policy, asked, mapError_ok, ok_bind, bind_eq_ok, mapError_eq_ok,
    Description.opt, Switches.setFlags_eq, elim_eq_ok, pure_eq_ok]
  constructor
  · rintro ⟨opt, ⟨optFlags, made⟩, target, created, rfl⟩
    obtain rfl := Except.ok.inj made
    exact ⟨⟨Config.optFlags_eq_none.1 optFlags, by simp, by simp⟩, target, created, rfl⟩
  · rintro ⟨accepted, target, created, rfl⟩
    exact ⟨_, ⟨Config.optFlags_eq_none.2 accepted.optFlags, rfl⟩, target, created, rfl⟩

theorem run_eq_ok {text : String} : words.run host toolkit (some "json") = .ok text ↔
    ∃ policy, words.policy host toolkit = .ok policy ∧ policy.report.report = text := by
  have format : ReportFormat.parse (some "json") = .ok .json := by decide
  simp only [run, format, ok_bind, bind_eq_ok, pure_eq_ok, Policy.render]

end Description

theorem Check.run_eq_ok {host : Host} {toolkit : Toolkit} {config : Config} {target : Target}
    {path : String} {contents : Check.Contents} (loads : load host path contents = .ok config)
    (built : config.build host toolkit = .ok (config.built host toolkit target : Checked)) :
    Check.run host toolkit path contents (some "json") =
      .ok (report path config (config.built host toolkit target)
        { target, opt := config.opt.withFlags config.codegen.optFlags }).report := by
  have format : ReportFormat.parse (some "json") = .ok .json := by decide
  rw [Check.run, format, ok_bind, loads, ok_bind, build, built]
  rfl

theorem Description.agrees_with_check {κ α : Type} [DecidableEq κ] [Hashable κ] (host : Host)
    (toolkit : Toolkit) (words : Description) (format : DocumentFormat) (config : Config)
    (decodes : (Config.record host).read format words.document = .ok config) :
    ((∃ text, words.run host toolkit (some "json") = .ok text) ↔
      ∃ ctx : Context κ α, config.build host toolkit = .ok ctx) ∧
    ∀ text, words.run host toolkit (some "json") = .ok text →
      ∃ policy object, words.policy host toolkit = .ok policy ∧ text = policy.report.report ∧
        Json.read? text = some object ∧
        ∀ path contents, Check.load host path contents = .ok config →
          ∃ report reply : Document,
            Check.run host toolkit path contents (some "json") = .ok report.report ∧
              report.get? "target" = some policy.report ∧
              Json.read? report.report = some reply ∧ reply.get? "target" = some object := by
  obtain ⟨request, asked, same⟩ := config_of_read decodes
  constructor
  · constructor
    · rintro ⟨text, printed⟩
      obtain ⟨policy, made, -⟩ := run_eq_ok.1 printed
      obtain ⟨accepted, target, created, -⟩ := (policy_eq_ok asked same).1 made
      exact ⟨_, Config.build_eq_ok.2 ⟨accepted, target, created, rfl⟩⟩
    · rintro ⟨ctx, built⟩
      obtain ⟨accepted, target, created, -⟩ := Config.build_eq_ok.1 built
      exact ⟨_, run_eq_ok.2 ⟨_, (policy_eq_ok asked same).2 ⟨accepted, target, created, rfl⟩, rfl⟩⟩
  · intro text printed
    obtain ⟨policy, made, rfl⟩ := run_eq_ok.1 printed
    obtain ⟨accepted, target, created, rfl⟩ := (policy_eq_ok asked same).1 made
    obtain ⟨-, rfl⟩ := Target.create_eq_ok.1 created
    have small := Target.small_build host toolkit config.target
    refine ⟨_, _, made, rfl, Document.read?_report (Policy.isReadable_report small 125), ?_⟩
    intro path contents loads
    have few : (config.built host toolkit (Target.build host toolkit config.target) :
        Check.Checked).silencedLines.size < UInt64.size := by
      subst same
      exact (by decide : 0 < UInt64.size)
    refine ⟨_, _, Check.run_eq_ok loads (Config.build_eq_ok.2 ⟨accepted, _, created, rfl⟩), rfl,
      Document.read?_report (Check.isReadable_report small few 124), ?_⟩
    exact Document.get?_readBack (by simp)

theorem Description.agrees_with_check_wide :
    let words : Description :=
      { target := "avx512skx-x16", cpu := "skx", arch := "x86-64", os := "linux"
        flags := ["disable-zmm"] }
    let config : Config :=
      { target :=
          { arch := some .x8664, cpu := "skx", target := Isa.avx512skx.defaultTarget, os := .linux }
        codegen := { optFlags := ["disable-zmm"] } }
    (Config.record .unknown).read .toml words.document = .ok config ∧
      ∃ text, words.run .unknown .builtin (some "json") = .ok text := by
  intro words config
  have decodes : (Config.record .unknown).read .toml words.document = .ok config := by rfl
  have agrees := agrees_with_check (κ := Unit) (α := Unit) .unknown .builtin words .toml config
    decodes
  obtain ⟨target, created⟩ := isOk_iff.1
    (show (Target.create .unknown .builtin config.target).isOk by decide +kernel)
  have accepted : config.Accepted := ⟨by decide, by simp [config], by simp [config]⟩
  exact ⟨decodes, agrees.1.2 ⟨_, Config.build_eq_ok.2 ⟨accepted, target, created, rfl⟩⟩⟩

end Lanewise
