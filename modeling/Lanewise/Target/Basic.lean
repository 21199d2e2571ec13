import Lanewise.Log
import Lanewise.Profile
import Lanewise.Target.Request
import Lanewise.Toolkit

/-!
# Targets

A target is built from a request with the help of a toolkit. Building never fails outright: a
request that cannot be met gives an invalid target, which keeps the geometry of the vector target
that was asked for and answers every other question in the negative.
-/

namespace Lanewise

structure TargetParts where
  cpu : Cpu
  profile : Profile
  triple : Triple
  machine : Machine
  dataLayout : DataLayout

/-- The processor of a request. For `native` on a host without instruction sets of the family, the
default processor stands in. -/
def chooseCpu (host : Host) (request : TargetRequest) (arch : Arch) : Except TargetFault Cpu :=
  match request.cpu with
  | none => .ok (Cpu.baseline request.isa arch)
  | some name =>
      if name = TargetRequest.nativeName then
        .ok ((host.nativeCpu? arch).getD (Cpu.baseline request.isa arch))
      else Cpu.parse name

def require {ε : Type} (condition : Bool) (failure : ε) : Except ε Unit :=
  if condition then .ok () else .error failure

def Toolkit.makeMachine (toolkit : Toolkit) (spec : MachineRequest) : Except TargetFault Machine :=
  (toolkit.machine spec).mapError .backend

def assemble (host : Host) (toolkit : Toolkit) (request : TargetRequest) :
    Except TargetFault TargetParts := do
  let arch := request.effectiveArch
  require (arch.family = request.isa.family) (.incompatibleArch arch request.target)
  let cpu ← chooseCpu host request arch
  require (cpu.executes request.isa arch) (.incompatibleCpu cpu request.target)
  let profile := Profile.of request.target cpu arch
  let triple ← toolkit.triple arch request.os
  let machine ← toolkit.makeMachine {
    triple
    cpu := cpu.name
    features := profile.features
    pic := request.pic
    codeModel := request.codeModel }
  let dataLayout ← DataLayout.read machine.dataLayout
  return { cpu, profile, triple, machine, dataLayout }

structure Target where
  request : TargetRequest
  outcome : Except TargetFault TargetParts
  reported : Pitfalls := .empty

namespace Target

def build (host : Host) (toolkit : Toolkit) (request : TargetRequest) : Target :=
  { request, outcome := assemble host toolkit request }

def error? (target : Target) : Option TargetFault :=
  match target.outcome with
  | .ok _ => none
  | .error failure => some failure

def create (host : Host) (toolkit : Toolkit) (request : TargetRequest) :
    Except TargetFault Target :=
  let target := build host toolkit request
  match target.error? with
  | some failure => .error failure
  | none => .ok target

def rebuild (host : Host) (toolkit : Toolkit) (target : Target) : Target :=
  build host toolkit target.request

def parts? (target : Target) : Option TargetParts := target.outcome.toOption

def isValid (target : Target) : Bool := target.error?.isNone

def vectorTarget (target : Target) : VectorTarget := target.request.target

def isa (target : Target) : Isa := target.request.isa

def arch (target : Target) : Arch := target.request.effectiveArch

def os (target : Target) : Os := target.request.os

def cpuName (target : Target) : String :=
  match target.parts? with
  | some parts => parts.cpu.name
  | none => target.request.cpu.getD ""

def profile (target : Target) : Profile :=
  match target.parts? with
  | some parts => parts.profile
  | none => Profile.bare target.vectorTarget

def triple? (target : Target) : Option Triple := target.parts?.map (·.triple)

def machine? (target : Target) : Option Machine := target.parts?.map (·.machine)

def dataLayout? (target : Target) : Option DataLayout := target.parts?.map (·.dataLayout)

def tripleText (target : Target) : String := (target.triple?.map Triple.text).getD ""

def features (target : Target) : String := target.profile.features

def capabilities (target : Target) : Capabilities := target.profile.capabilities

def vectorWidth (target : Target) : Nat := target.profile.vectorWidth

def is32Bit (target : Target) : Bool := target.arch.is32Bit

def callingConv (target : Target) : CallingConv :=
  if target.isa.family = .x86 ∧ target.os = .windows then .x86VectorCall else .default

def sizeOf? (target : Target) (scalar : Scalar) : Option Nat :=
  target.dataLayout?.map (·.sizeOf scalar)

def placeStruct? (target : Target) (fields : List Scalar) : Option StructPlacement :=
  target.dataLayout?.map (·.placeStruct fields)

def display (target : Target) : String :=
  let cpu := if target.cpuName = "" then "?" else target.cpuName
  let lead := target.vectorTarget.name ++ " (" ++ target.isa.displayName ++ " x"
    ++ toString target.vectorWidth ++ ") on " ++ cpu ++ " [" ++ target.arch.name ++ "]"
  match target.outcome with
  | .ok parts => lead ++ " " ++ parts.triple.text
  | .error failure => lead ++ " invalid: " ++ failure.message

def buildLog (target : Target) : List LogRecord :=
  (match target.error? with
    | some failure =>
        [⟨.warn, "invalid target " ++ target.vectorTarget.name ++ ": " ++ failure.message⟩]
    | none => [])
  ++ if target.request.printTarget then [⟨.info, target.display⟩] else []

def regcallStem : String := "__regcall3__"

def regcallName (name : String) : String := regcallStem ++ name

/-- The attributes of every generated function. Wide AVX-512 targets state the width of their
registers, which `limitZmm` holds at 256 bits. -/
def attributeList (target : Target) (limitZmm : Bool) : List (String × String) :=
  if target.isValid then
    let width := if limitZmm then "256" else "512"
    [("target-cpu", target.cpuName), ("target-features", target.features)]
      ++ if target.isa.isAvx512 && 16 ≤ target.vectorWidth then
          [("prefer-vector-width", width), ("min-legal-vector-width", width)]
        else []
  else []

def intrinsicFamilies : List (String × IsaFamily) :=
  [("llvm.x86.", .x86), ("llvm.arm.", .arm), ("llvm.aarch64.", .arm), ("llvm.wasm.", .wasm)]

def hostsIntrinsics (arch : Arch) (stem : String) : Bool :=
  if stem = "llvm.arm." then arch = .arm
  else if stem = "llvm.aarch64." then arch = .aarch64
  else true

def admitsIntrinsic (target : Target) (name : String) : Bool :=
  match intrinsicFamilies.find? fun row => Text.startsWith name row.1 with
  | some (stem, family) => family = target.isa.family && hostsIntrinsics target.arch stem
  | none => true

def hasIntrinsic (target : Target) (name : String) : Bool :=
  match target.machine? with
  | some machine => target.admitsIntrinsic name && machine.hasIntrinsic name
  | none => false

def relevantPitfalls (target : Target) : Pitfalls := target.profile.relevantPitfalls

def matters (target : Target) (kinds : Pitfalls) : Bool :=
  target.relevantPitfalls.contains kinds

def reportedKinds (target : Target) : Pitfalls := target.reported.known

def markReported (target : Target) (kinds : Pitfalls) : Target :=
  { target with reported := target.reported.union kinds }

def hasReported (target : Target) (kinds : Pitfalls) : Bool :=
  target.reportedKinds.contains kinds

/-- Claims the right to report a set: granted if the set matters and has not been reported. A set
that matters counts as reported from then on. -/
def claimReport (target : Target) (kinds : Pitfalls) : Bool × Target :=
  if target.matters kinds then (!target.hasReported kinds, target.markReported kinds)
  else (false, target)

end Target

end Lanewise
