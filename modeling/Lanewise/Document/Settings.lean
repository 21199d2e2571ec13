import Lanewise.Document.Record
import Lanewise.Optimization
import Lanewise.Settings

namespace Lanewise

def Switches.record : Record Switches where
  name := "OptConfig"
  base := {}
  fields := [
    .of "level" .keyword (·.level) fun level opt => { opt with level },
    .of "fast-math" .bool (·.fastMath) fun fastMath opt => { opt with fastMath },
    .of "fast-masked-vload" .bool (·.fastMaskedVload)
      fun fastMaskedVload opt => { opt with fastMaskedVload },
    .of "unroll-loops" .bool (·.unrollLoops) fun unrollLoops opt => { opt with unrollLoops },
    .of "force-32bit-addressing" .bool (·.force32BitAddressing)
      fun force32BitAddressing opt => { opt with force32BitAddressing },
    .of "disable-asserts" .bool (·.disableAsserts)
      fun disableAsserts opt => { opt with disableAsserts },
    .of "disable-gathers" .bool (·.disableGathers)
      fun disableGathers opt => { opt with disableGathers },
    .of "disable-scatters" .bool (·.disableScatters)
      fun disableScatters opt => { opt with disableScatters },
    .of "disable-fma" .bool (·.disableFma) fun disableFma opt => { opt with disableFma },
    .of "force-aligned-memory" .bool (·.forceAlignedMemory)
      fun forceAlignedMemory opt => { opt with forceAlignedMemory },
    .of "enable-load-store-vectorizer" .bool (·.enableLoadStoreVectorizer)
      fun enableLoadStoreVectorizer opt => { opt with enableLoadStoreVectorizer },
    .of "enable-slp-vectorizer" .bool (·.enableSlpVectorizer)
      fun enableSlpVectorizer opt => { opt with enableSlpVectorizer },
    .of "disable-mask-all-on-optimizations" .bool (·.disableMaskAllOnOptimizations)
      fun disableMaskAllOnOptimizations opt => { opt with disableMaskAllOnOptimizations },
    .of "disable-handle-pseudo-memory-ops" .bool (·.disableHandlePseudoMemoryOps)
      fun disableHandlePseudoMemoryOps opt => { opt with disableHandlePseudoMemoryOps },
    .of "disable-blended-masked-stores" .bool (·.disableBlendedMaskedStores)
      fun disableBlendedMaskedStores opt => { opt with disableBlendedMaskedStores },
    .of "disable-coherent-control-flow" .bool (·.disableCoherentControlFlow)
      fun disableCoherentControlFlow opt => { opt with disableCoherentControlFlow },
    .of "disable-uniform-control-flow" .bool (·.disableUniformControlFlow)
      fun disableUniformControlFlow opt => { opt with disableUniformControlFlow },
    .of "disable-gather-scatter-optimizations" .bool (·.disableGatherScatterOptimizations)
      fun disableGatherScatterOptimizations opt => { opt with disableGatherScatterOptimizations },
    .of "disable-masked-store-to-store" .bool (·.disableMaskedStoreToStore)
      fun disableMaskedStoreToStore opt => { opt with disableMaskedStoreToStore },
    .of "disable-gather-scatter-flattening" .bool (·.disableGatherScatterFlattening)
      fun disableGatherScatterFlattening opt => { opt with disableGatherScatterFlattening },
    .of "disable-uniform-memory-optimizations" .bool (·.disableUniformMemoryOptimizations)
      fun disableUniformMemoryOptimizations opt => { opt with disableUniformMemoryOptimizations },
    .of "disable-coalescing" .bool (·.disableCoalescing)
      fun disableCoalescing opt => { opt with disableCoalescing },
    .of "disable-zmm" .bool (·.disableZmm) fun disableZmm opt => { opt with disableZmm },
    .of "reset-ftz-daz" .bool (·.resetFtzDaz) fun resetFtzDaz opt => { opt with resetFtzDaz }]

def Settings.record : Record Settings where
  name := "Settings"
  base := {}
  fields := [
    .of "math-lib" .keyword (·.mathLib) fun mathLib settings => { settings with mathLib },
    .of "codegen-opt-level" .keyword (·.codegenOptLevel)
      fun codegenOptLevel settings => { settings with codegenOptLevel },
    .of "include-stdlib" .bool (·.includeStdlib)
      fun includeStdlib settings => { settings with includeStdlib },
    .of "run-cpp" .bool (·.runCpp) fun runCpp settings => { settings with runCpp },
    .of "only-cpp" .bool (·.onlyCpp) fun onlyCpp settings => { settings with onlyCpp },
    .of "debug-print" .bool (·.debugPrint)
      fun debugPrint settings => { settings with debugPrint },
    .of "ast-dump" .keyword (·.astDump) fun astDump settings => { settings with astDump },
    .of "omit-frame-pointer" .bool (·.omitFramePointer)
      fun omitFramePointer settings => { settings with omitFramePointer },
    .of "slim-binary" .bool (·.slimBinary)
      fun slimBinary settings => { settings with slimBinary },
    .of "warnings-as-errors" .bool (·.warningsAsErrors)
      fun warningsAsErrors settings => { settings with warningsAsErrors },
    .of "signed-int-wrap" .keyword (·.signedIntWrap)
      fun signedIntWrap settings => { settings with signedIntWrap },
    .of "disable-line-wrap" .bool (·.disableLineWrap)
      fun disableLineWrap settings => { settings with disableLineWrap },
    .of "emit-perf-warnings" .bool (·.emitPerfWarnings)
      fun emitPerfWarnings settings => { settings with emitPerfWarnings },
    .of "disable-warnings" .bool (·.disableWarnings)
      fun disableWarnings settings => { settings with disableWarnings },
    .of "quiet" .bool (·.quiet) fun quiet settings => { settings with quiet },
    .of "force-color" .bool (·.forceColor)
      fun forceColor settings => { settings with forceColor },
    .of "emit-instrumentation" .bool (·.emitInstrumentation)
      fun emitInstrumentation settings => { settings with emitInstrumentation },
    .of "debug-info" .keyword (·.debugInfo)
      fun debugInfo settings => { settings with debugInfo },
    .of "dwarf-version" .word (·.dwarfVersion)
      fun dwarfVersion settings => { settings with dwarfVersion },
    .of "mangle-functions-with-target" .bool (·.mangleFunctionsWithTarget)
      fun mangleFunctionsWithTarget settings => { settings with mangleFunctionsWithTarget },
    .of "enable-llvm-intrinsics" .bool (·.enableLlvmIntrinsics)
      fun enableLlvmIntrinsics settings => { settings with enableLlvmIntrinsics },
    .nullable "force-alignment" .word (·.forceAlignment)
      fun forceAlignment settings => { settings with forceAlignment },
    .of "dllexport" .bool (·.dllexport) fun dllexport settings => { settings with dllexport },
    .of "multi-target" .bool (·.multiTarget)
      fun multiTarget settings => { settings with multiTarget },
    .nullable "error-limit" .word (·.errorLimit)
      fun errorLimit settings => { settings with errorLimit },
    .of "time-trace" .bool (·.timeTrace) fun timeTrace settings => { settings with timeTrace },
    .nullable "darwin-version-min" .text (·.darwinVersionMin)
      fun darwinVersionMin settings => { settings with darwinVersionMin },
    .of "calling-conv" .keyword (·.callingConv)
      fun callingConv settings => { settings with callingConv },
    .nullable "cwd" .path (·.cwd) fun cwd settings => { settings with cwd },
    .of "include-paths" (.list .path) (·.includePaths)
      fun includePaths settings => { settings with includePaths },
    .of "cpp-args" (.list .text) (·.cppArgs) fun cppArgs settings => { settings with cppArgs },
    .nullable "dump-file-path" .path (·.dumpFilePath)
      fun dumpFilePath settings => { settings with dumpFilePath }]

end Lanewise
