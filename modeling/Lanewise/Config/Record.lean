import Lanewise.Config.Basic
import Lanewise.Document.Settings
import Lanewise.Document.Source
import Lanewise.Document.Target

namespace Lanewise

def Config.Codegen.record : Record Config.Codegen where
  name := "CodegenSection"
  base := {}
  fields := [
    .of "math-lib" .keyword (·.mathLib) fun mathLib codegen => { codegen with mathLib },
    .of "codegen-opt-level" .keyword (·.codegenOptLevel)
      fun codegenOptLevel codegen => { codegen with codegenOptLevel },
    .of "include-stdlib" .bool (·.includeStdlib)
      fun includeStdlib codegen => { codegen with includeStdlib },
    .of "run-cpp" .bool (·.runCpp) fun runCpp codegen => { codegen with runCpp },
    .of "only-cpp" .bool (·.onlyCpp) fun onlyCpp codegen => { codegen with onlyCpp },
    .of "omit-frame-pointer" .bool (·.omitFramePointer)
      fun omitFramePointer codegen => { codegen with omitFramePointer },
    .of "slim-binary" .bool (·.slimBinary) fun slimBinary codegen => { codegen with slimBinary },
    .of "signed-int-wrap" .keyword (·.signedIntWrap)
      fun signedIntWrap codegen => { codegen with signedIntWrap },
    .of "debug-info" .keyword (·.debugInfo) fun debugInfo codegen => { codegen with debugInfo },
    .of "dwarf-version" .word (·.dwarfVersion)
      fun dwarfVersion codegen => { codegen with dwarfVersion },
    .of "mangle-functions-with-target" .bool (·.mangleFunctionsWithTarget)
      fun mangleFunctionsWithTarget codegen => { codegen with mangleFunctionsWithTarget },
    .of "enable-llvm-intrinsics" .bool (·.enableLlvmIntrinsics)
      fun enableLlvmIntrinsics codegen => { codegen with enableLlvmIntrinsics },
    .omitted "force-alignment" .word (·.forceAlignment)
      fun forceAlignment codegen => { codegen with forceAlignment },
    .of "dllexport" .bool (·.dllexport) fun dllexport codegen => { codegen with dllexport },
    .of "multi-target" .bool (·.multiTarget)
      fun multiTarget codegen => { codegen with multiTarget },
    .of "calling-conv" .keyword (·.callingConv)
      fun callingConv codegen => { codegen with callingConv },
    .of "time-trace" .bool (·.timeTrace) fun timeTrace codegen => { codegen with timeTrace },
    .omitted "darwin-version-min" .text (·.darwinVersionMin)
      fun darwinVersionMin codegen => { codegen with darwinVersionMin },
    .of "opt-flags" (.list .text) (·.optFlags) fun optFlags codegen => { codegen with optFlags },
    .of "dump-stages" (.list .word) (·.dumpStages)
      fun dumpStages codegen => { codegen with dumpStages },
    .of "skip-stages" (.list .word) (·.skipStages)
      fun skipStages codegen => { codegen with skipStages }]

def Config.Diagnostics.record : Record Config.Diagnostics where
  name := "DiagnosticsSection"
  base := {}
  fields := [
    .of "debug-print" .bool (·.debugPrint)
      fun debugPrint diagnostics => { diagnostics with debugPrint },
    .of "ast-dump" .keyword (·.astDump) fun astDump diagnostics => { diagnostics with astDump },
    .of "warnings-as-errors" .bool (·.warningsAsErrors)
      fun warningsAsErrors diagnostics => { diagnostics with warningsAsErrors },
    .of "disable-line-wrap" .bool (·.disableLineWrap)
      fun disableLineWrap diagnostics => { diagnostics with disableLineWrap },
    .of "emit-perf-warnings" .bool (·.emitPerfWarnings)
      fun emitPerfWarnings diagnostics => { diagnostics with emitPerfWarnings },
    .of "disable-warnings" .bool (·.disableWarnings)
      fun disableWarnings diagnostics => { diagnostics with disableWarnings },
    .of "quiet" .bool (·.quiet) fun quiet diagnostics => { diagnostics with quiet },
    .of "force-color" .bool (·.forceColor)
      fun forceColor diagnostics => { diagnostics with forceColor },
    .of "emit-instrumentation" .bool (·.emitInstrumentation)
      fun emitInstrumentation diagnostics => { diagnostics with emitInstrumentation },
    .omitted "error-limit" .word (·.errorLimit)
      fun errorLimit diagnostics => { diagnostics with errorLimit },
    .of "suppress" (.list FileLine.record.codec) (·.silenced)
      fun silenced diagnostics => { diagnostics with silenced }]

def Config.Paths.record : Record Config.Paths where
  name := "PathsSection"
  base := {}
  fields := [
    .omitted "cwd" .path (·.cwd) fun cwd paths => { paths with cwd },
    .of "include-paths" (.list .path) (·.includePaths)
      fun includePaths paths => { paths with includePaths },
    .of "cpp-args" (.list .text) (·.cppArgs) fun cppArgs paths => { paths with cppArgs },
    .omitted "dump-file-path" .path (·.dumpFilePath)
      fun dumpFilePath paths => { paths with dumpFilePath }]

def Config.record (host : Host) : Record Config where
  name := "DriverConfig"
  base := .onHost host
  fields := [
    .of "target" (TargetRequest.record host).codec (·.target)
      fun target config => { config with target },
    .of "opt" Switches.record.codec (·.opt) fun opt config => { config with opt },
    .of "codegen" Config.Codegen.record.codec (·.codegen)
      fun codegen config => { config with codegen },
    .of "diagnostics" Config.Diagnostics.record.codec (·.diagnostics)
      fun diagnostics config => { config with diagnostics },
    .of "paths" Config.Paths.record.codec (·.paths) fun paths config => { config with paths }]

end Lanewise
