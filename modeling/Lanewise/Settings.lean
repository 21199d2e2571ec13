import Lanewise.Declaration
import Lanewise.Platform

namespace Lanewise

inductive MathLib where
  | default
  | fast
  | svml
  | system
  deriving DecidableEq, Repr

namespace MathLib

def title : MathLib → String
  | default => "Default"
  | fast => "Fast"
  | svml => "Svml"
  | system => "System"

instance : Keyword MathLib where
  all := [default, fast, svml, system]
  word
    | default => "default"
    | fast => "fast"
    | svml => "svml"
    | system => "system"

end MathLib

inductive CodegenOptLevel where
  | none
  | aggressive
  deriving DecidableEq, Repr

instance : Keyword CodegenOptLevel where
  all := [.none, .aggressive]
  word
    | .none => "none"
    | .aggressive => "aggressive"

inductive AstDump where
  | none
  | user
  | all
  deriving DecidableEq, Repr

instance : Keyword AstDump where
  all := [.none, .user, .all]
  word
    | .none => "none"
    | .user => "user"
    | .all => "all"

inductive DebugInfo where
  | none
  | dwarf
  | codeView
  deriving DecidableEq, Repr

instance : Keyword DebugInfo where
  all := [.none, .dwarf, .codeView]
  word
    | .none => "none"
    | .dwarf => "dwarf"
    | .codeView => "code-view"

structure Settings where
  mathLib : MathLib := .default
  codegenOptLevel : CodegenOptLevel := .aggressive
  includeStdlib : Bool := true
  runCpp : Bool := true
  onlyCpp : Bool := false
  debugPrint : Bool := false
  astDump : AstDump := .none
  omitFramePointer : Bool := false
  slimBinary : Bool := false
  warningsAsErrors : Bool := false
  signedIntWrap : SignedOverflow := .nsw
  disableLineWrap : Bool := false
  emitPerfWarnings : Bool := true
  disableWarnings : Bool := false
  quiet : Bool := false
  forceColor : Bool := false
  emitInstrumentation : Bool := false
  debugInfo : DebugInfo := .none
  dwarfVersion : UInt32 := 3
  mangleFunctionsWithTarget : Bool := false
  enableLlvmIntrinsics : Bool := false
  forceAlignment : Option UInt32 := none
  dllexport : Bool := false
  multiTarget : Bool := false
  errorLimit : Option UInt32 := none
  timeTrace : Bool := false
  darwinVersionMin : Option String := none
  callingConv : CallingConv := .uninitialized
  cwd : Option String := none
  includePaths : List String := []
  cppArgs : List String := []
  dumpFilePath : Option String := none
  deriving DecidableEq, Repr

end Lanewise
