import Lanewise.Host

namespace Lanewise

structure TargetRequest where
  arch : Option Arch := none
  cpu : Option String := none
  target : VectorTarget
  os : Os
  pic : PicLevel := .default
  codeModel : CodeModel := .default
  printTarget : Bool := false
  deriving DecidableEq

namespace TargetRequest

def nativeName : String := "native"

def forTarget (host : Host) (target : VectorTarget) : TargetRequest :=
  { target, os := host.os }

def onHost (host : Host) : TargetRequest :=
  forTarget host host.defaultTarget

def isa (request : TargetRequest) : Isa := request.target.isa

def effectiveArch (request : TargetRequest) : Arch :=
  request.arch.getD request.isa.family.defaultArch

end TargetRequest

end Lanewise
