import Lanewise.Json.Writer
import Lanewise.Document.Target
import Lanewise.Policy
import Lanewise.Target.Attributes

namespace Lanewise

inductive ReportFormat where
  | human
  | json
  deriving DecidableEq, Repr

instance : Keyword ReportFormat where
  all := [.human, .json]
  word
    | .human => "human"
    | .json => "json"

def Document.report (document : Document) : String := document.json ++ "\n"

namespace Policy

def attributes (policy : Policy) : AttributeMap :=
  policy.target.addAttributes policy.opt.disableZmm []

def pitfalls (policy : Policy) : List String :=
  policy.target.relevantPitfalls.parts.map Pitfalls.advice

def decisions (policy : Policy) : Document :=
  .map [
    ("gather", .keyword policy.gather),
    ("scatter", .keyword policy.scatter),
    ("masked-store", .keyword policy.maskedStore),
    ("fma", .bool policy.fusesMultiplyAdd),
    ("coalescing", .bool policy.coalesces),
    ("zmm", .bool policy.usesZmm),
    ("fast-masked-vload", .bool policy.opt.fastMaskedVload),
    ("unroll-loops", .bool policy.opt.unrollLoops),
    ("asserts", .bool policy.keepsAsserts),
    ("force-32bit-addressing", .bool policy.force32BitAddressing)]

def report (policy : Policy) : Document :=
  .map (policy.target.summary ++ [
    ("opt-level", .text policy.opt.level.display),
    ("calling-convention", .keyword policy.target.callingConv),
    ("function-attributes", .textMap policy.attributes),
    ("policy", policy.decisions),
    ("perf-warnings", .texts policy.pitfalls)])

def headLines (policy : Policy) : List String :=
  let target := policy.target
  ["=== Target: " ++ target.vectorTarget.name ++ " ===",
    "  ISA:          " ++ target.isa.displayName ++ " (" ++ target.isa.family.name ++ ")",
    "  CPU:          " ++ target.cpuName,
    "  Architecture: " ++ target.arch.name,
    "  OS:           " ++ target.os.name,
    "  Triple:       " ++ target.tripleText,
    "  Features:     " ++ target.features,
    "  Suffix:       " ++ target.vectorTarget.symbolSuffix,
    "  Calling conv: " ++ target.callingConv.title]
  ++ (target.dataLayoutText?.map fun layout => "  Data layout:  " ++ layout).toList
  ++ [""]

def geometryLines (policy : Policy) : List String :=
  let profile := policy.target.profile
  ["--- Vector geometry ---",
    "  Gang size " ++ toString profile.vectorWidth ++ " x " ++ toString profile.dataTypeWidth
      ++ " bits, native width " ++ toString profile.nativeVectorWidth ++ ", alignment "
      ++ toString profile.nativeVectorAlignment ++ " bytes",
    "  Mask: " ++ toString profile.maskBitCount ++ " bit(s) per lane, free masking: "
      ++ Text.yesNo profile.maskingIsFree,
    ""]

def capabilityNames (policy : Policy) (isPresent : Bool) : String :=
  let entries := policy.target.capabilities.toList.filter fun entry => entry.2 = isPresent
  Text.commaList ((entries.map (·.1)).mergeSort fun first second => first ≤ second)

def capabilityLines (policy : Policy) : List String :=
  ["--- Capabilities ---",
    "  Present: " ++ policy.capabilityNames true,
    "  Absent:  " ++ policy.capabilityNames false,
    ""]

def decisionLines (policy : Policy) : List String :=
  ["--- Policy (" ++ policy.opt.level.display ++ ") ---",
    "  Gather:        " ++ policy.gather.title,
    "  Scatter:       " ++ policy.scatter.title,
    "  Masked store:  " ++ policy.maskedStore.title,
    "  FMA:           " ++ Text.yesNo policy.fusesMultiplyAdd,
    "  Coalescing:    " ++ Text.yesNo policy.coalesces,
    "  ZMM registers: " ++ Text.yesNo policy.usesZmm,
    "  32-bit offsets: " ++ Text.yesNo policy.force32BitAddressing,
    "  Asserts:       " ++ Text.yesNo policy.keepsAsserts]
  ++ if policy.attributes.isEmpty then []
    else
      "  Attributes:" :: policy.attributes.map fun entry => "    " ++ entry.1 ++ " = " ++ entry.2

def pitfallLines (policy : Policy) : List String :=
  if policy.pitfalls.isEmpty then []
  else ["", "--- Performance warnings ---"] ++ policy.pitfalls.map ("  " ++ ·)

def reportText (policy : Policy) : String :=
  Text.unlines (policy.headLines ++ policy.geometryLines ++ policy.capabilityLines
    ++ policy.decisionLines ++ policy.pitfallLines)

def render (policy : Policy) : ReportFormat → String
  | .human => policy.reportText
  | .json => policy.report.report

end Policy

end Lanewise
