import Lanewise.Document.Record
import Lanewise.Target.Basic

namespace Lanewise

def TargetRequest.record (host : Host) : Record TargetRequest where
  name := "TargetRequest"
  base := .onHost host
  fields := [
    .omitted "arch" .keyword (·.arch) fun arch request => { request with arch },
    .omitted "cpu" .text (·.cpu) fun cpu request => { request with cpu },
    .of "target" .vectorTarget (·.target) fun target request => { request with target },
    .of "os" .keyword (·.os) fun os request => { request with os },
    .of "pic" .keyword (·.pic) fun pic request => { request with pic },
    .of "code-model" .keyword (·.codeModel) fun codeModel request => { request with codeModel },
    .of "print-target" .bool (·.printTarget)
      fun printTarget request => { request with printTarget }]

def Capabilities.document (capabilities : Capabilities) : Document :=
  .map (capabilities.toList.map fun entry => (entry.1, .bool entry.2))

def Profile.entries (profile : Profile) : List (String × Document) :=
  [("native-vector-width", .nat profile.nativeVectorWidth),
    ("native-vector-alignment", .nat profile.nativeVectorAlignment),
    ("data-type-width", .nat profile.dataTypeWidth),
    ("vector-width", .nat profile.vectorWidth),
    ("mask-bit-count", .nat profile.maskBitCount),
    ("masking-is-free", .bool profile.maskingIsFree),
    ("features", .text profile.features),
    ("capabilities", profile.capabilities.document),
    ("relevant-warnings", .text profile.relevantPitfalls.text)]

def Target.dataLayoutText? (target : Target) : Option String := target.dataLayout?.map (·.source)

def Target.summary (target : Target) : List (String × Document) :=
  [("valid", .bool target.isValid)]
    ++ Document.entry? "error" (.text ∘ TargetFault.message) target.error?
    ++ [("target", .text target.vectorTarget.name),
      ("isa", .text target.isa.displayName),
      ("arch", .keyword target.arch),
      ("cpu", .text target.cpuName),
      ("os", .keyword target.os),
      ("triple", .text target.tripleText),
      ("suffix", .text target.vectorTarget.symbolSuffix)]
    ++ target.profile.entries
    ++ Document.entry? "data-layout" .text target.dataLayoutText?

end Lanewise
