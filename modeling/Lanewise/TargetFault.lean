import Lanewise.Cpu
import Lanewise.DataLayout
import Lanewise.Triple
import Lanewise.VectorTarget

namespace Lanewise

inductive BackendFault where
  | noTarget (triple : String)
  | machineCreation (triple cpu detail : String)
  deriving DecidableEq, Repr

inductive TargetFault where
  | unknownTarget (name : String)
  | unknownIsa (name : String)
  | unknownCpu (name : String)
  | unknownArch (name : String)
  | unknownOs (name : String)
  | unknownOptFlag (name : String)
  | incompatibleCpu (cpu : Cpu) (target : VectorTarget)
  | incompatibleArch (arch : Arch) (target : VectorTarget)
  | unsupportedOs (arch : Arch) (os : Os)
  | backend (cause : BackendFault)
  | invalidDataLayout (layout : String) (fault : LayoutFault)
  deriving DecidableEq

def BackendFault.message : BackendFault → String
  | noTarget triple => "no backend registered for triple '" ++ triple ++ "'"
  | machineCreation triple cpu detail =>
      "failed to create target machine for " ++ triple ++ " (cpu " ++ cpu ++ "): " ++ detail

def TargetFault.message : TargetFault → String
  | unknownTarget name => "unknown target '" ++ name ++ "'"
  | unknownIsa name => "unknown ISA '" ++ name ++ "'"
  | unknownCpu name => "unknown CPU '" ++ name ++ "'; supported CPUs: " ++ Cpu.nameList
  | unknownArch name => "unknown architecture '" ++ name ++ "'"
  | unknownOs name => "unknown target OS '" ++ name ++ "'"
  | unknownOptFlag name => "unknown optimization option '" ++ name ++ "'"
  | incompatibleCpu cpu target =>
      "the requested CPU (" ++ cpu.name ++ ") is incompatible with the target " ++ target.name
  | incompatibleArch arch target =>
      "the target " ++ target.name ++ " is not supported on the " ++ arch.name ++ " architecture"
  | unsupportedOs arch os =>
      "the " ++ os.name ++ " target OS is not supported on the " ++ arch.name ++ " architecture"
  | backend cause => cause.message
  | invalidDataLayout layout fault => "invalid data layout '" ++ layout ++ "': " ++ fault.message

def orFail {ε α : Type} (failure : ε) : Option α → Except ε α
  | some value => .ok value
  | none => .error failure

def VectorTarget.parse (text : String) : Except TargetFault VectorTarget :=
  orFail (.unknownTarget text) (ofName? text)

def Isa.parse (text : String) : Except TargetFault Isa :=
  orFail (.unknownIsa text) (ofName? text)

def Isa.ofTarget (text : String) : Except TargetFault Isa :=
  (VectorTarget.parse text).map (·.isa)

def Arch.parse (text : String) : Except TargetFault Arch :=
  orFail (.unknownArch text) (ofName? text)

def Os.parse (text : String) : Except TargetFault Os :=
  orFail (.unknownOs text) (ofName? text)

def Cpu.parse (text : String) : Except TargetFault Cpu :=
  orFail (.unknownCpu text) (ofName? text)

def Triple.forPlatform (arch : Arch) (os : Os) : Except TargetFault Triple :=
  orFail (.unsupportedOs arch os) (of? arch os)

def DataLayout.read (text : String) : Except TargetFault DataLayout :=
  (parse text).mapError (.invalidDataLayout text)

theorem orFail_eq_ok {ε α : Type} {failure : ε} {value : Option α} {result : α} :
    orFail failure value = .ok result ↔ value = some result := by
  cases value <;> simp [orFail]

end Lanewise
