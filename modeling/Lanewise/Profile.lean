import Lanewise.Cpu
import Lanewise.Pitfalls
import Lanewise.VectorTarget

namespace Lanewise

structure Capabilities where
  halfConverts : Bool := false
  halfFullSupport : Bool := false
  rand : Bool := false
  gather : Bool := false
  scatter : Bool := false
  transcendentals : Bool := false
  trigonometry : Bool := false
  rsqrtd : Bool := false
  rcpd : Bool := false
  vectorPrefetch : Bool := false
  saturatingArithmetic : Bool := false
  fp16 : Bool := false
  fp64 : Bool := false
  conflictDetection : Bool := false
  intelVnni : Bool := false
  intelVnniInt8 : Bool := false
  intelVnniInt16 : Bool := false
  armDotProduct : Bool := false
  armI8mm : Bool := false
  fma : Bool := false
  deriving DecidableEq, Repr

namespace Capabilities

def off : Capabilities := {}

def toList (capabilities : Capabilities) : List (String × Bool) :=
  [("half-converts", capabilities.halfConverts),
    ("half-full-support", capabilities.halfFullSupport),
    ("rand", capabilities.rand),
    ("gather", capabilities.gather),
    ("scatter", capabilities.scatter),
    ("transcendentals", capabilities.transcendentals),
    ("trigonometry", capabilities.trigonometry),
    ("rsqrtd", capabilities.rsqrtd),
    ("rcpd", capabilities.rcpd),
    ("vector-prefetch", capabilities.vectorPrefetch),
    ("saturating-arithmetic", capabilities.saturatingArithmetic),
    ("fp16", capabilities.fp16),
    ("fp64", capabilities.fp64),
    ("conflict-detection", capabilities.conflictDetection),
    ("intel-vnni", capabilities.intelVnni),
    ("intel-vnni-int8", capabilities.intelVnniInt8),
    ("intel-vnni-int16", capabilities.intelVnniInt16),
    ("arm-dot-product", capabilities.armDotProduct),
    ("arm-i8mm", capabilities.armI8mm),
    ("fma", capabilities.fma)]

end Capabilities

structure Profile where
  /-- Lanes that fit into one register. -/
  nativeVectorWidth : Nat
  /-- Alignment of a register in bytes. -/
  nativeVectorAlignment : Nat
  /-- Width in bits of the element type. -/
  dataTypeWidth : Nat
  vectorWidth : Nat
  maskBitCount : Nat
  maskingIsFree : Bool
  features : String
  capabilities : Capabilities
  relevantPitfalls : Pitfalls
  deriving DecidableEq, Repr

def Isa.registerBits : Isa → Nat
  | avx | avx2 | avx2vnni => 256
  | isa => if isa.isAvx512 then 512 else 128

namespace VectorTarget

def nativeWidth (target : VectorTarget) : Nat :=
  min target.lanes (target.isa.registerBits / target.elementBits)

def maskBits (target : VectorTarget) : Nat :=
  if target.isa.isAvx512 then 1 else target.elementBits

end VectorTarget

def skylakeFeatures : List String :=
  ["+avx512f", "+avx512cd", "+avx512dq", "+avx512bw", "+avx512vl", "+fma", "+f16c", "+popcnt",
    "+cmov"]

def iceLakeFeatures : List String :=
  ["+avx512vnni", "+avx512vbmi", "+avx512vbmi2", "+avx512bitalg", "+avx512vpopcntdq"]

def sapphireRapidsFeatures : List String :=
  ["+avx512bf16", "+avx512fp16", "+amx-int8", "+amx-bf16", "+avxvnni"]

def avx2Features : List String := ["+avx", "+avx2", "+popcnt", "+cmov", "+f16c", "+fma"]

def sse41Features : List String := ["+sse", "+sse2", "+sse3", "+ssse3", "+sse4.1"]

def isaFeatures (isa : Isa) (cpu : Cpu) (arch : Arch) : List String :=
  match isa with
  | .sse2 => ["+sse", "+sse2"]
  | .sse41 => sse41Features
  | .sse42 => sse41Features ++ ["+sse4.2", "+popcnt"]
  | .avx => ["+avx", "+popcnt", "+cmov"]
  | .avx2 => avx2Features
  | .avx2vnni => avx2Features ++ ["+avxvnni"]
  | .avx512knl =>
      ["+avx512f", "+avx512pf", "+avx512er", "+avx512cd", "+fma", "+f16c", "+popcnt", "+cmov"]
  | .avx512skx => skylakeFeatures
  | .avx512icl => skylakeFeatures ++ iceLakeFeatures
  | .avx512spr => skylakeFeatures ++ iceLakeFeatures ++ sapphireRapidsFeatures
  | .avx10_2 =>
      skylakeFeatures ++ iceLakeFeatures ++ sapphireRapidsFeatures
        ++ ["+avx10.2-512", "+avxvnniint8", "+avxvnniint16"]
  | .neon =>
      if arch = .arm then ["+neon", "+fp16"]
      else
        ["+neon"] ++ (if cpu.has .fp16 then ["+fullfp16"] else [])
          ++ (if cpu.has .dotprod then ["+dotprod"] else [])
          ++ (if cpu.has .i8mm then ["+i8mm"] else [])
  | .wasm => ["+simd128"]

def featureList (isa : Isa) (cpu : Cpu) (arch : Arch) : List String :=
  isaFeatures isa cpu arch
    ++ if isa.family = .x86 && Isa.avx ≤ isa && cpu.has .rdrand then ["+rdrnd"] else []

def Capabilities.of (target : VectorTarget) (cpu : Cpu) (arch : Arch) : Capabilities :=
  let isa := target.isa
  let x86 : Bool := isa.family = .x86
  let avx2OrLater : Bool := x86 && Isa.avx2 ≤ isa
  let avx512 := isa.isAvx512
  let neon64 : Bool := isa = .neon && arch = .aarch64
  let avx10 : Bool := isa = .avx10_2
  let halfConverts := (x86 && isa = .avx && cpu.has .f16c) || avx2OrLater || isa = .neon
  let halfFullSupport := isa = .avx512spr || avx10 || (neon64 && cpu.has .fp16)
  { halfConverts
    halfFullSupport
    rand := x86 && Isa.avx ≤ isa && cpu.has .rdrand
    gather := avx2OrLater
    scatter := avx512
    transcendentals := isa = .avx512knl
    trigonometry := false
    rsqrtd := avx512 || neon64
    rcpd := avx512 || neon64
    vectorPrefetch := isa = .avx512knl
    saturatingArithmetic := (x86 && target.elementBits ≤ 16) || isa = .neon
    fp16 := halfConverts || halfFullSupport
    fp64 := x86 || neon64 || isa = .wasm
    conflictDetection := avx512
    intelVnni := isa = .avx2vnni || isa = .avx512icl || isa = .avx512spr || avx10
    intelVnniInt8 := avx10 && cpu.has .vnniInt8
    intelVnniInt16 := avx10 && cpu.has .vnniInt16
    armDotProduct := neon64 && cpu.has .dotprod
    armI8mm := neon64 && cpu.has .i8mm
    fma := avx2OrLater || neon64 }

def Isa.relevantPitfalls : Isa → Pitfalls
  | sse2 | sse41 | sse42 => (.union .cvtUintFloat (.union .divModInt .variableShiftRight))
  | avx => .union .cvtUintFloat .divModInt
  | avx2 | avx2vnni => .union .cvtUintFloat (.union .cvtUintFloat16 .divModInt)
  | _ => .divModInt

namespace Profile

def bare (target : VectorTarget) : Profile where
  nativeVectorWidth := target.nativeWidth
  nativeVectorAlignment := target.nativeWidth * target.elementBits / 8
  dataTypeWidth := target.elementBits
  vectorWidth := target.lanes
  maskBitCount := target.maskBits
  maskingIsFree := false
  features := ""
  capabilities := .off
  relevantPitfalls := .empty

/-- The profile of a target on a processor and an architecture. Whether the processor runs the
target at all is not looked at. -/
def of (target : VectorTarget) (cpu : Cpu) (arch : Arch) : Profile :=
  { bare target with
    maskingIsFree := target.isa.isAvx512
    features := String.intercalate "," (featureList target.isa cpu arch)
    capabilities := Capabilities.of target cpu arch
    relevantPitfalls := target.isa.relevantPitfalls }

end Profile

end Lanewise
