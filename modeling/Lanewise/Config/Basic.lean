import Lanewise.Context
import Lanewise.Document.Misfit
import Lanewise.Files

namespace Lanewise

structure Config.Codegen where
  mathLib : MathLib := .default
  codegenOptLevel : CodegenOptLevel := .aggressive
  includeStdlib : Bool := true
  runCpp : Bool := true
  onlyCpp : Bool := false
  omitFramePointer : Bool := false
  slimBinary : Bool := false
  signedIntWrap : SignedOverflow := .nsw
  debugInfo : DebugInfo := .none
  dwarfVersion : UInt32 := 3
  mangleFunctionsWithTarget : Bool := false
  enableLlvmIntrinsics : Bool := false
  forceAlignment : Option UInt32 := none
  dllexport : Bool := false
  multiTarget : Bool := false
  callingConv : CallingConv := .uninitialized
  timeTrace : Bool := false
  darwinVersionMin : Option String := none
  optFlags : List String := []
  dumpStages : List UInt32 := []
  skipStages : List UInt32 := []
  deriving DecidableEq

structure Config.Diagnostics where
  debugPrint : Bool := false
  astDump : AstDump := .none
  warningsAsErrors : Bool := false
  disableLineWrap : Bool := false
  emitPerfWarnings : Bool := true
  disableWarnings : Bool := false
  quiet : Bool := false
  forceColor : Bool := false
  emitInstrumentation : Bool := false
  errorLimit : Option UInt32 := none
  silenced : List FileLine := []
  deriving DecidableEq

structure Config.Paths where
  cwd : Option String := none
  includePaths : List String := []
  cppArgs : List String := []
  dumpFilePath : Option String := none
  deriving DecidableEq

structure Config where
  target : TargetRequest
  opt : Switches := {}
  codegen : Config.Codegen := {}
  diagnostics : Config.Diagnostics := {}
  paths : Config.Paths := {}
  deriving DecidableEq

inductive ConfigFault where
  | unreadable (path : String) (cause : FileFault)
  | malformed
  | misfit (cause : Misfit)
  | target (cause : TargetFault)
  | context (cause : ContextFault)
  deriving DecidableEq

namespace ConfigFault

def textFault : String := "TOML parse error"

def fullMessage : ConfigFault → String
  | unreadable path cause =>
      "I/O error at " ++ path ++ ": " ++ cause.message ++ ": " ++ cause.message
  | malformed | misfit _ => textFault
  | target cause => cause.message
  | context cause => cause.fullMessage

end ConfigFault

namespace Config

def onHost (host : Host) : Config := { target := .onHost host }

def settings (config : Config) : Settings where
  mathLib := config.codegen.mathLib
  codegenOptLevel := config.codegen.codegenOptLevel
  includeStdlib := config.codegen.includeStdlib
  runCpp := config.codegen.runCpp
  onlyCpp := config.codegen.onlyCpp
  debugPrint := config.diagnostics.debugPrint
  astDump := config.diagnostics.astDump
  omitFramePointer := config.codegen.omitFramePointer
  slimBinary := config.codegen.slimBinary
  warningsAsErrors := config.diagnostics.warningsAsErrors
  signedIntWrap := config.codegen.signedIntWrap
  disableLineWrap := config.diagnostics.disableLineWrap
  emitPerfWarnings := config.diagnostics.emitPerfWarnings
  disableWarnings := config.diagnostics.disableWarnings
  quiet := config.diagnostics.quiet
  forceColor := config.diagnostics.forceColor
  emitInstrumentation := config.diagnostics.emitInstrumentation
  debugInfo := config.codegen.debugInfo
  dwarfVersion := config.codegen.dwarfVersion
  mangleFunctionsWithTarget := config.codegen.mangleFunctionsWithTarget
  enableLlvmIntrinsics := config.codegen.enableLlvmIntrinsics
  forceAlignment := config.codegen.forceAlignment
  dllexport := config.codegen.dllexport
  multiTarget := config.codegen.multiTarget
  errorLimit := config.diagnostics.errorLimit
  timeTrace := config.codegen.timeTrace
  darwinVersionMin := config.codegen.darwinVersionMin
  callingConv := config.codegen.callingConv
  cwd := config.paths.cwd
  includePaths := config.paths.includePaths
  cppArgs := config.paths.cppArgs
  dumpFilePath := config.paths.dumpFilePath

def effectiveSwitches (config : Config) : Except TargetFault Switches :=
  config.opt.setFlags config.codegen.optFlags

variable {κ α : Type} [DecidableEq κ] [Hashable κ]

def fillIn (config : Config) (opt : Switches) (ctx : Context κ α) :
    Except ContextFault (Context κ α) := do
  let ctx ← ctx.editSwitches fun _ => opt
  let ctx ← ctx.configure fun _ => config.settings
  let ctx ← config.diagnostics.silenced.foldlM
    (fun ctx line => ctx.silence line.1 line.2) ctx
  let ctx ← config.codegen.dumpStages.foldlM Context.dumpAfter ctx
  config.codegen.skipStages.foldlM Context.leaveOut ctx

def apply (config : Config) (ctx : Context κ α) : Except ConfigFault (Context κ α) := do
  let opt ← config.effectiveSwitches.mapError .target
  (config.fillIn opt ctx).mapError .context

def build (host : Host) (toolkit : Toolkit) (config : Config) :
    Except ConfigFault (Context κ α) := do
  let ctx ← config.apply (Context.new host toolkit)
  (ctx.activate config.target).mapError .context

/-- What building a context says on the side. A context that does not become active is torn down. -/
def buildLog (host : Host) (toolkit : Toolkit) (config : Config) : List LogRecord :=
  let start : Context Unit Unit := .new host toolkit
  match config.apply start with
  | .error _ => start.tearDownLog
  | .ok ctx =>
      ctx.activationLog config.target ++
        match ctx.activate config.target with
        | .ok _ => []
        | .error _ => ctx.tearDownLog

end Config

end Lanewise
