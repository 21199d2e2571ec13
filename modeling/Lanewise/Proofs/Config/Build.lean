import Lanewise.Config.Basic
import Lanewise.Proofs.Ascending
import Lanewise.Proofs.Context.Operations
import Lanewise.Proofs.Optimization
import Lanewise.Proofs.Target.Construction
import Lanewise.Toolkit.Builtin

namespace Lanewise

variable {κ α : Type} [DecidableEq κ] [Hashable κ]

/-! ## Loops of a context -/

namespace Context

variable {ctx : Context κ α}

theorem foldlM_silence (running : ctx.phase ≠ .tornDown) (lines : List FileLine) :
    lines.foldlM (fun ctx line => ctx.silence line.1 line.2) ctx =
      .ok { ctx with
        silencedLines := lines.foldl (fun set line => set.insert line.1 line.2)
          ctx.silencedLines } := by
  refine foldlM_placed (fun silencedLines => { ctx with silencedLines })
    (fun set line => set.insert line.1 line.2) (fun set line => ?_) lines ctx.silencedLines
  rw [silence_eq, if_neg running]

theorem foldlM_selectStage (select : Context κ α → UInt32 → Except ContextFault (Context κ α))
    (activity : Activity) (place : List UInt32 → Context κ α)
    (running : ∀ set, (place set).phase ≠ .tornDown)
    (selects : ∀ set stage, select (place set) stage =
      (place set).selectStage activity stage (place (Stage.insert stage set)))
    (stages set : List UInt32) :
    stages.foldlM select (place set) =
      (stages.find? (Stage.last < ·)).elim
        (.ok (place (stages.foldl (fun set stage => Stage.insert stage set) set)))
        fun stage => .error (.stageOutOfRange stage) := by
  refine foldlM_checked place (fun set stage => Stage.insert stage set) _ _ (fun set stage => ?_)
    stages set
  rw [selects, selectStage_eq, if_neg (running set)]
  by_cases inside : stage ≤ Stage.last <;> simp [inside]

end Context

namespace Config

variable {config : Config} {host : Host} {toolkit : Toolkit} {opt : Switches} {ctx : Context κ α}

/-! ## Filling in -/

def filled (config : Config) (opt : Switches) (ctx : Context κ α) : Context κ α :=
  { ctx with
    opt
    settings := config.settings
    silencedLines := config.diagnostics.silenced.foldl (fun set line => set.insert line.1 line.2)
      ctx.silencedLines
    dumpStages := config.codegen.dumpStages.foldl (fun set stage => Stage.insert stage set)
      ctx.dumpStages
    skipStages := config.codegen.skipStages.foldl (fun set stage => Stage.insert stage set)
      ctx.skipStages }

theorem fillIn_eq (idle : ctx.phase = .configuring) :
    config.fillIn opt ctx =
      (config.codegen.dumpStages.find? (Stage.last < ·)).elim
        ((config.codegen.skipStages.find? (Stage.last < ·)).elim (.ok (config.filled opt ctx))
          fun stage => .error (.stageOutOfRange stage))
        fun stage => .error (.stageOutOfRange stage) := by
  have running : ctx.phase ≠ .tornDown := by simp [idle]
  have dumped := Context.foldlM_selectStage Context.dumpAfter .selectingDumpStages
    (fun dumpStages => { config.filled opt ctx with dumpStages, skipStages := ctx.skipStages })
    (fun _ => running) (fun _ _ => rfl) config.codegen.dumpStages ctx.dumpStages
  have skipped := Context.foldlM_selectStage Context.leaveOut .selectingSkippedStages
    (fun skipStages => { config.filled opt ctx with skipStages })
    (fun _ => running) (fun _ _ => rfl) config.codegen.skipStages ctx.skipStages
  rw [fillIn, Context.editSwitches_eq, if_pos idle, ok_bind, Context.configure_eq, if_pos idle,
    ok_bind, Context.foldlM_silence, ok_bind]
  · refine (congrArg (· >>= _) dumped).trans ?_
    cases config.codegen.dumpStages.find? (Stage.last < ·) with
    | none => exact skipped
    | some stage => rfl
  · exact running

/-! ## Building -/

structure Accepted (config : Config) : Prop where
  optFlags : ∀ name ∈ config.codegen.optFlags, config.opt.accepts name
  dumpStages : ∀ stage ∈ config.codegen.dumpStages, stage ≤ Stage.last
  skipStages : ∀ stage ∈ config.codegen.skipStages, stage ≤ Stage.last

/-- The failure of the first condition of a configuration that does not hold. -/
inductive FirstFault (host : Host) (toolkit : Toolkit) (config : Config) : ConfigFault → Prop
  | optFlag (name : String)
      (first : config.codegen.optFlags.find? (!config.opt.accepts ·) = some name) :
      FirstFault host toolkit config (.target (.unknownOptFlag name))
  | dumpStage (stage : UInt32)
      (optFlags : ∀ name ∈ config.codegen.optFlags, config.opt.accepts name)
      (first : config.codegen.dumpStages.find? (Stage.last < ·) = some stage) :
      FirstFault host toolkit config (.context (.stageOutOfRange stage))
  | skipStage (stage : UInt32)
      (optFlags : ∀ name ∈ config.codegen.optFlags, config.opt.accepts name)
      (dumpStages : ∀ stage ∈ config.codegen.dumpStages, stage ≤ Stage.last)
      (first : config.codegen.skipStages.find? (Stage.last < ·) = some stage) :
      FirstFault host toolkit config (.context (.stageOutOfRange stage))
  | target (cause : TargetFault) (accepted : config.Accepted)
      (fails : Target.create host toolkit config.target = .error cause) :
      FirstFault host toolkit config (.context (.invalidTarget config.target.target cause))

theorem optFlags_eq_none : config.codegen.optFlags.find? (!config.opt.accepts ·) = none ↔
    ∀ name ∈ config.codegen.optFlags, config.opt.accepts name := by
  simp [List.find?_eq_none]

theorem stages_eq_none {stages : List UInt32} :
    stages.find? (Stage.last < ·) = none ↔ ∀ stage ∈ stages, stage ≤ Stage.last := by
  simp [List.find?_eq_none]

def built (config : Config) (host : Host) (toolkit : Toolkit) (target : Target) : Context κ α :=
  { Context.new host toolkit with
    phase := .active
    target := some target
    opt := config.opt.withFlags config.codegen.optFlags
    settings := Context.settle config.settings target
    silencedLines := ⟨Ascending.setOf FileLine.key config.diagnostics.silenced⟩
    dumpStages := Ascending.setOf UInt32.toNat config.codegen.dumpStages
    skipStages := Ascending.setOf UInt32.toNat config.codegen.skipStages }

theorem filled_activated (config : Config) (host : Host) (toolkit : Toolkit) (target : Target) :
    (config.filled (config.opt.withFlags config.codegen.optFlags)
        (Context.new host toolkit : Context κ α)).activated target =
      config.built host toolkit target := by
  simp [filled, built, Context.new, Context.activated, SilencedLines.foldl_insert,
    Stage.foldl_insert]

theorem activate_filled (request : TargetRequest) :
    (config.filled opt (Context.new host toolkit : Context κ α)).activate request =
      ((Target.create host toolkit request).mapError (.invalidTarget request.target)).map
        (config.filled opt (Context.new host toolkit)).activated := by
  cases created : Target.create host toolkit request with
  | error cause => exact Context.activate_of_fails _ rfl rfl created
  | ok target => exact (Context.activate_eq_ok _).2 ⟨rfl, toolkit, target, rfl, created, rfl⟩

theorem build_eq (config : Config) (host : Host) (toolkit : Toolkit) :
    (config.build host toolkit : Except ConfigFault (Context κ α)) =
      (config.codegen.optFlags.find? (!config.opt.accepts ·)).elim
        ((config.codegen.dumpStages.find? (Stage.last < ·)).elim
          ((config.codegen.skipStages.find? (Stage.last < ·)).elim
            (((Target.create host toolkit config.target).mapError
              fun cause => .context (.invalidTarget config.target.target cause)).map
                (config.built host toolkit))
            fun stage => .error (.context (.stageOutOfRange stage)))
          fun stage => .error (.context (.stageOutOfRange stage)))
        fun name => .error (.target (.unknownOptFlag name)) := by
  rw [build, apply, effectiveSwitches, Switches.setFlags_eq]
  cases config.codegen.optFlags.find? (!config.opt.accepts ·) with
  | some name => rfl
  | none =>
      rw [Option.elim_none, mapError_ok, ok_bind, fillIn_eq rfl]
      cases config.codegen.dumpStages.find? (Stage.last < ·) with
      | some stage => rfl
      | none =>
          cases config.codegen.skipStages.find? (Stage.last < ·) with
          | some stage => rfl
          | none =>
              rw [Option.elim_none, Option.elim_none, mapError_ok, ok_bind, activate_filled]
              cases Target.create host toolkit config.target with
              | error cause => rfl
              | ok target => exact congrArg Except.ok (filled_activated config host toolkit target)

theorem build_eq_ok : config.build host toolkit = .ok ctx ↔ config.Accepted ∧
    ∃ target, Target.create host toolkit config.target = .ok target ∧
      config.built host toolkit target = ctx := by
  rw [build_eq, elim_eq_ok, elim_eq_ok, elim_eq_ok, optFlags_eq_none, stages_eq_none,
    stages_eq_none, map_eq_ok]
  simp only [mapError_eq_ok]
  constructor
  · rintro ⟨optFlags, dumpStages, skipStages, made⟩
    exact ⟨⟨optFlags, dumpStages, skipStages⟩, made⟩
  · rintro ⟨⟨optFlags, dumpStages, skipStages⟩, made⟩
    exact ⟨optFlags, dumpStages, skipStages, made⟩

theorem build_eq_error {failure : ConfigFault} :
    (config.build host toolkit : Except ConfigFault (Context κ α)) = .error failure ↔
      FirstFault host toolkit config failure := by
  rw [build_eq, elim_eq_error, elim_eq_error, elim_eq_error, optFlags_eq_none, stages_eq_none,
    stages_eq_none, map_eq_error, mapError_eq_error]
  constructor
  · rintro (⟨name, first, rfl⟩ | ⟨optFlags, ⟨stage, first, rfl⟩ | ⟨dumpStages,
      ⟨stage, first, rfl⟩ | ⟨skipStages, cause, fails, rfl⟩⟩⟩)
    · exact .optFlag name first
    · exact .dumpStage stage optFlags first
    · exact .skipStage stage optFlags dumpStages first
    · exact .target cause ⟨optFlags, dumpStages, skipStages⟩ fails
  · intro fault
    cases fault with
    | optFlag name first => exact .inl ⟨name, first, rfl⟩
    | dumpStage stage optFlags first => exact .inr ⟨optFlags, .inl ⟨stage, first, rfl⟩⟩
    | skipStage stage optFlags dumpStages first =>
        exact .inr ⟨optFlags, .inr ⟨dumpStages, .inl ⟨stage, first, rfl⟩⟩⟩
    | target cause accepted fails =>
        exact .inr ⟨accepted.optFlags, .inr ⟨accepted.dumpStages,
          .inr ⟨accepted.skipStages, cause, fails, rfl⟩⟩⟩

/-! ## The context that is built -/

/-- Every setting has the value of one field, and a calling convention that no field settles is that
of the target. -/
structure Sets (config : Config) (target : Target) (settings : Settings) : Prop where
  mathLib : settings.mathLib = config.codegen.mathLib
  codegenOptLevel : settings.codegenOptLevel = config.codegen.codegenOptLevel
  includeStdlib : settings.includeStdlib = config.codegen.includeStdlib
  runCpp : settings.runCpp = config.codegen.runCpp
  onlyCpp : settings.onlyCpp = config.codegen.onlyCpp
  omitFramePointer : settings.omitFramePointer = config.codegen.omitFramePointer
  slimBinary : settings.slimBinary = config.codegen.slimBinary
  signedIntWrap : settings.signedIntWrap = config.codegen.signedIntWrap
  debugInfo : settings.debugInfo = config.codegen.debugInfo
  dwarfVersion : settings.dwarfVersion = config.codegen.dwarfVersion
  mangleFunctionsWithTarget :
    settings.mangleFunctionsWithTarget = config.codegen.mangleFunctionsWithTarget
  enableLlvmIntrinsics : settings.enableLlvmIntrinsics = config.codegen.enableLlvmIntrinsics
  forceAlignment : settings.forceAlignment = config.codegen.forceAlignment
  dllexport : settings.dllexport = config.codegen.dllexport
  multiTarget : settings.multiTarget = config.codegen.multiTarget
  timeTrace : settings.timeTrace = config.codegen.timeTrace
  darwinVersionMin : settings.darwinVersionMin = config.codegen.darwinVersionMin
  debugPrint : settings.debugPrint = config.diagnostics.debugPrint
  astDump : settings.astDump = config.diagnostics.astDump
  warningsAsErrors : settings.warningsAsErrors = config.diagnostics.warningsAsErrors
  disableLineWrap : settings.disableLineWrap = config.diagnostics.disableLineWrap
  emitPerfWarnings : settings.emitPerfWarnings = config.diagnostics.emitPerfWarnings
  disableWarnings : settings.disableWarnings = config.diagnostics.disableWarnings
  quiet : settings.quiet = config.diagnostics.quiet
  forceColor : settings.forceColor = config.diagnostics.forceColor
  emitInstrumentation : settings.emitInstrumentation = config.diagnostics.emitInstrumentation
  errorLimit : settings.errorLimit = config.diagnostics.errorLimit
  cwd : settings.cwd = config.paths.cwd
  includePaths : settings.includePaths = config.paths.includePaths
  cppArgs : settings.cppArgs = config.paths.cppArgs
  dumpFilePath : settings.dumpFilePath = config.paths.dumpFilePath
  callingConv : settings.callingConv =
    if config.codegen.callingConv = .uninitialized then target.callingConv
    else config.codegen.callingConv

theorem settle_eq (settings : Settings) (target : Target) :
    Context.settle settings target =
      { settings with
        callingConv :=
          if settings.callingConv = .uninitialized then target.callingConv
          else settings.callingConv } := by
  by_cases unsettled : settings.callingConv = .uninitialized
  · rw [Context.settle, if_pos unsettled, if_pos unsettled]
  · rw [Context.settle, if_neg unsettled, if_neg unsettled]

theorem sets_settle (config : Config) (target : Target) :
    config.Sets target (Context.settle config.settings target) := by
  rw [settle_eq]
  constructor <;> rfl

structure Describes (config : Config) (target : Target) (ctx : Context κ α) : Prop where
  active : ctx.phase = .active
  owned : ctx.target = some target
  opt : ctx.opt = config.opt.withFlags config.codegen.optFlags
  settings : config.Sets target ctx.settings
  silenced : ∀ line file, ctx.silencedLines.contains line file ↔
    (line, file) ∈ config.diagnostics.silenced
  size : ctx.silencedLines.size = config.diagnostics.silenced.toFinset.card
  dumpsAfter : ∀ stage, ctx.dumpsAfter stage ↔ stage ∈ config.codegen.dumpStages
  leavesOut : ∀ stage, ctx.leavesOut stage ↔ stage ∈ config.codegen.skipStages

theorem describes_built (config : Config) (host : Host) (toolkit : Toolkit) (target : Target) :
    config.Describes target (config.built host toolkit target : Context κ α) where
  active := rfl
  owned := rfl
  opt := rfl
  settings := config.sets_settle target
  silenced line file := by
    simp [built, SilencedLines.contains, Ascending.mem_setOf]
  size := Ascending.length_setOf FileLine.key_injective _
  dumpsAfter stage := by simp [built, Context.dumpsAfter, Ascending.mem_setOf]
  leavesOut stage := by simp [built, Context.leavesOut, Ascending.mem_setOf]

def withLists (config : Config) (silenced : List FileLine) (dumpStages skipStages : List UInt32) :
    Config :=
  { config with
    codegen := { config.codegen with dumpStages, skipStages }
    diagnostics := { config.diagnostics with silenced } }

theorem build_withLists {silenced : List FileLine} {dumpStages skipStages : List UInt32}
    (lines : ∀ line, line ∈ silenced ↔ line ∈ config.diagnostics.silenced)
    (dumps : ∀ stage, stage ∈ dumpStages ↔ stage ∈ config.codegen.dumpStages)
    (skips : ∀ stage, stage ∈ skipStages ↔ stage ∈ config.codegen.skipStages)
    (done : config.build host toolkit = .ok ctx) :
    (config.withLists silenced dumpStages skipStages).build host toolkit = .ok ctx := by
  obtain ⟨⟨optFlags, dumped, skipped⟩, target, created, rfl⟩ := build_eq_ok.1 done
  refine build_eq_ok.2 ⟨⟨optFlags, fun stage member => dumped stage ((dumps stage).1 member),
    fun stage member => skipped stage ((skips stage).1 member)⟩, target, created, ?_⟩
  have same_lines := Ascending.setOf_congr FileLine.key_injective lines
  have same_dumps := Ascending.setOf_congr Stage.toNat_injective dumps
  have same_skips := Ascending.setOf_congr Stage.toNat_injective skips
  simp only [built, withLists, same_lines, same_dumps, same_skips]
  rfl

theorem build_outcome (host : Host) (toolkit : Toolkit) (config : Config) :
    let outcome : Except ConfigFault (Context κ α) := config.build host toolkit
    ((∃ ctx, outcome = .ok ctx) ↔ config.Accepted ∧
      ∃ target, Target.create host toolkit config.target = .ok target) ∧
    (∀ failure, outcome = .error failure ↔ FirstFault host toolkit config failure) ∧
    (∀ ctx, outcome = .ok ctx → ∃ target, Target.create host toolkit config.target = .ok target ∧
      config.Describes target ctx) ∧
    ∀ ctx silenced dumpStages skipStages, outcome = .ok ctx →
      (∀ line, line ∈ silenced ↔ line ∈ config.diagnostics.silenced) →
      (∀ stage, stage ∈ dumpStages ↔ stage ∈ config.codegen.dumpStages) →
      (∀ stage, stage ∈ skipStages ↔ stage ∈ config.codegen.skipStages) →
      (config.withLists silenced dumpStages skipStages).build host toolkit = .ok ctx := by
  intro outcome
  refine ⟨?_, fun failure => build_eq_error, ?_, ?_⟩
  · simp only [outcome, build_eq_ok]
    constructor
    · rintro ⟨ctx, accepted, target, created, -⟩
      exact ⟨accepted, target, created⟩
    · rintro ⟨accepted, target, created⟩
      exact ⟨_, accepted, target, created, rfl⟩
  · intro ctx done
    obtain ⟨-, target, created, rfl⟩ := build_eq_ok.1 done
    exact ⟨target, created, config.describes_built host toolkit target⟩
  · intro ctx silenced dumpStages skipStages done lines dumps skips
    exact build_withLists lines dumps skips done

theorem build_outcome_repeated :
    let config : Config :=
      { target := { target := Isa.avx2.defaultTarget, os := .linux }
        codegen := { optFlags := ["fast-math"], dumpStages := [200, 30, 200] } }
    ∃ ctx : Context Unit Unit, config.build .unknown .builtin = .ok ctx ∧
      ctx.opt = { fastMath := true } ∧ ctx.dumpsAfter 30 ∧
      (config.withLists [] [30, 200] []).build .unknown .builtin = .ok ctx := by
  intro config
  obtain ⟨succeeds, -, described, same⟩ :=
    build_outcome (κ := Unit) (α := Unit) .unknown .builtin config
  have accepted : config.Accepted := ⟨by decide, by simp [config, Stage.last], by simp [config]⟩
  obtain ⟨ctx, done⟩ := succeeds.2 ⟨accepted, isOk_iff.1 (by decide +kernel)⟩
  obtain ⟨target, -, describes⟩ := described ctx done
  refine ⟨ctx, done, describes.opt, (describes.dumpsAfter 30).2 (by decide), ?_⟩
  refine same ctx [] [30, 200] [] done (fun _ => Iff.rfl) (fun stage => ?_) fun _ => Iff.rfl
  simp only [config, List.mem_cons, List.not_mem_nil, or_false]
  exact ⟨.inr, fun listed => listed.elim .inr id⟩

end Config

end Lanewise
