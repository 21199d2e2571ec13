import Lanewise.Platform
import Lanewise.Text.Basic

namespace Lanewise

inductive CpuFeature where
  | avxVnni
  | vnniInt8
  | vnniInt16
  | f16c
  | rdrand
  | dotprod
  | i8mm
  | fp16
  deriving DecidableEq, Repr

namespace CpuFeature

def all : List CpuFeature := [avxVnni, vnniInt8, vnniInt16, f16c, rdrand, dotprod, i8mm, fp16]

def name : CpuFeature → String
  | avxVnni => "AVX_VNNI"
  | vnniInt8 => "VNNI_INT8"
  | vnniInt16 => "VNNI_INT16"
  | f16c => "F16C"
  | rdrand => "RDRAND"
  | dotprod => "DOTPROD"
  | i8mm => "I8MM"
  | fp16 => "FP16"

def bit : CpuFeature → Nat
  | avxVnni => 1
  | vnniInt8 => 2
  | vnniInt16 => 4
  | f16c => 8
  | rdrand => 16
  | dotprod => 32
  | i8mm => 64
  | fp16 => 128

end CpuFeature

inductive Cpu where
  | x8664
  | core2
  | penryn
  | nehalem
  | btver2
  | sandybridge
  | ivybridge
  | haswell
  | broadwell
  | skylake
  | znver1
  | znver2
  | znver3
  | alderlake
  | knl
  | skylakeAvx512
  | icelakeClient
  | icelakeServer
  | tigerlake
  | znver4
  | sapphirerapids
  | graniterapids
  | diamondrapids
  | cortexA9
  | cortexA15
  | cortexA35
  | cortexA53
  | cortexA57
  | cortexA76
  | cortexA78
  | neoverseN2
  | appleA7
  | appleA14
  | appleM1
  | appleM2
  | generic
  deriving DecidableEq, Repr

namespace Cpu

def all : List Cpu :=
  [x8664, core2, penryn, nehalem, btver2, sandybridge, ivybridge, haswell, broadwell, skylake,
    znver1, znver2, znver3, alderlake, knl, skylakeAvx512, icelakeClient, icelakeServer, tigerlake,
    znver4, sapphirerapids, graniterapids, diamondrapids, cortexA9, cortexA15, cortexA35, cortexA53,
    cortexA57, cortexA76, cortexA78, neoverseN2, appleA7, appleA14, appleM1, appleM2, generic]

def name : Cpu → String
  | x8664 => "x86-64"
  | core2 => "core2"
  | penryn => "penryn"
  | nehalem => "nehalem"
  | btver2 => "btver2"
  | sandybridge => "sandybridge"
  | ivybridge => "ivybridge"
  | haswell => "haswell"
  | broadwell => "broadwell"
  | skylake => "skylake"
  | znver1 => "znver1"
  | znver2 => "znver2"
  | znver3 => "znver3"
  | alderlake => "alderlake"
  | knl => "knl"
  | skylakeAvx512 => "skylake-avx512"
  | icelakeClient => "icelake-client"
  | icelakeServer => "icelake-server"
  | tigerlake => "tigerlake"
  | znver4 => "znver4"
  | sapphirerapids => "sapphirerapids"
  | graniterapids => "graniterapids"
  | diamondrapids => "diamondrapids"
  | cortexA9 => "cortex-a9"
  | cortexA15 => "cortex-a15"
  | cortexA35 => "cortex-a35"
  | cortexA53 => "cortex-a53"
  | cortexA57 => "cortex-a57"
  | cortexA76 => "cortex-a76"
  | cortexA78 => "cortex-a78"
  | neoverseN2 => "neoverse-n2"
  | appleA7 => "apple-a7"
  | appleA14 => "apple-a14"
  | appleM1 => "apple-m1"
  | appleM2 => "apple-m2"
  | generic => "generic"

def aliases : Cpu → List String
  | nehalem => ["corei7"]
  | btver2 => ["ps4"]
  | sandybridge => ["corei7-avx"]
  | ivybridge => ["core-avx-i"]
  | haswell => ["core-avx2"]
  | alderlake => ["adl"]
  | skylakeAvx512 => ["skx"]
  | icelakeClient => ["icl"]
  | icelakeServer => ["icx"]
  | tigerlake => ["tgl"]
  | sapphirerapids => ["spr"]
  | graniterapids => ["gnr"]
  | diamondrapids => ["dmr"]
  | appleA7 => ["cyclone"]
  | generic => ["mvp"]
  | _ => []

def maxIsa : Cpu → Isa
  | x8664 | core2 => .sse2
  | penryn => .sse41
  | nehalem => .sse42
  | btver2 | sandybridge | ivybridge => .avx
  | haswell | broadwell | skylake | znver1 | znver2 | znver3 => .avx2
  | alderlake => .avx2vnni
  | knl => .avx512knl
  | skylakeAvx512 => .avx512skx
  | icelakeClient | icelakeServer | tigerlake | znver4 => .avx512icl
  | sapphirerapids | graniterapids => .avx512spr
  | diamondrapids => .avx10_2
  | generic => .wasm
  | _ => .neon

def features : Cpu → List CpuFeature
  | btver2 => [.f16c]
  | ivybridge | haswell | broadwell | skylake | znver1 | znver2 | znver3 | knl | skylakeAvx512
  | icelakeClient | icelakeServer | tigerlake | znver4 => [.f16c, .rdrand]
  | alderlake => [.avxVnni, .f16c, .rdrand]
  | sapphirerapids | graniterapids => [.avxVnni, .f16c, .rdrand, .fp16]
  | diamondrapids => [.avxVnni, .vnniInt8, .vnniInt16, .f16c, .rdrand, .fp16]
  | cortexA76 | cortexA78 | appleA14 | appleM1 => [.dotprod, .fp16]
  | neoverseN2 | appleM2 => [.dotprod, .i8mm, .fp16]
  | _ => []

def is64Bit : Cpu → Bool
  | cortexA9 | cortexA15 => false
  | _ => true

def family (cpu : Cpu) : IsaFamily := cpu.maxIsa.family

def has (cpu : Cpu) (feature : CpuFeature) : Bool := cpu.features.contains feature

def featureBits (cpu : Cpu) : Nat :=
  cpu.features.foldl (fun bits feature => bits ||| feature.bit) 0

def answersTo (cpu : Cpu) (text : String) : Bool :=
  cpu.name == text || cpu.aliases.contains text

def ofName? (text : String) : Option Cpu :=
  all.find? (·.answersTo text)

def nameList : String :=
  Text.commaList (all.map name)

/-- Whether a processor's lineage includes an instruction set of its family. Knights Landing is a
lineage of its own beside the later AVX-512 kinds, and AVX-VNNI is a feature, not a rank. -/
def runs (cpu : Cpu) (isa : Isa) : Bool :=
  if isa = .avx512knl then cpu.maxIsa = .avx512knl
  else if cpu.maxIsa = .avx512knl then isa ≤ .avx2
  else if isa = .avx2vnni then cpu.has .avxVnni
  else isa ≤ cpu.maxIsa

def executes (cpu : Cpu) (isa : Isa) (arch : Arch) : Bool :=
  cpu.family = isa.family && cpu.family = arch.family && (arch ≠ .aarch64 || cpu.is64Bit)
    && cpu.runs isa

def isasOn (cpu : Cpu) (arch : Arch) : List Isa :=
  Isa.all.filter (cpu.executes · arch)

def baseline : Isa → Arch → Cpu
  | .sse2, _ => core2
  | .sse41, _ => penryn
  | .sse42, _ => nehalem
  | .avx, _ => sandybridge
  | .avx2, _ => haswell
  | .avx2vnni, _ => alderlake
  | .avx512knl, _ => knl
  | .avx512skx, _ => skylakeAvx512
  | .avx512icl, _ => icelakeClient
  | .avx512spr, _ => sapphirerapids
  | .avx10_2, _ => diamondrapids
  | .neon, .arm => cortexA9
  | .neon, _ => cortexA57
  | .wasm, _ => generic

theorem mem_all (cpu : Cpu) : cpu ∈ all := by
  cases cpu <;> decide

end Cpu

end Lanewise
