import Lanewise.Toolkit

namespace Lanewise

def manglingLetter (triple : Triple) : String :=
  if triple.isApple then "o" else if triple.isWindows then "w" else "e"

def builtinLayout? (triple : Triple) : Option String :=
  match triple.arch with
  | "x86_64" =>
      some ("e-m:" ++ manglingLetter triple
        ++ "-p270:32:32-p271:32:32-p272:64:64-i64:64-i128:128-f80:128-n8:16:32:64-S128")
  | "i686" =>
      if triple.isWindows then
        some ("e-m:x-p:32:32-p270:32:32-p271:32:32-p272:64:64-i64:64-i128:128-f80:128"
          ++ "-n8:16:32-a:0:32-S32")
      else
        some ("e-m:e-p:32:32-p270:32:32-p271:32:32-p272:64:64-i128:128-f64:32:64-f80:32"
          ++ "-n8:16:32-S128")
  | "aarch64" =>
      if triple.isApple then some "e-m:o-i64:64-i128:128-n32:64-S128"
      else if triple.isWindows then some "e-m:w-p:64:64-i32:32-i64:64-i128:128-n32:64-S128"
      else some "e-m:e-i8:8:32-i16:16:32-i64:64-i128:128-n32:64-S128"
  | "arm64" => if triple.isApple then some "e-m:o-i64:64-i128:128-n32:64-S128" else none
  | "armv7" => some "e-m:e-p:32:32-Fi8-i64:64-v128:64:128-a:0:32-n32-S64"
  | "wasm32" => some "e-m:e-p:32:32-p10:8:8-p20:8:8-i64:64-n32:64-S128-ni:1:10:20"
  | "wasm64" => some "e-m:e-p:64:64-p10:8:8-p20:8:8-i64:64-n32:64-S128-ni:1:10:20"
  | _ => none

/-- The x86 features of which each implies the ones before it. -/
def x86Ladder : List String :=
  ["+sse", "+sse2", "+sse4.1", "+sse4.2", "+avx", "+avx2", "+avx512f"]

def intrinsicFeatures : List (String × String) :=
  [("llvm.x86.avx512.", "+avx512f"),
    ("llvm.x86.avx2.", "+avx2"),
    ("llvm.x86.avx.", "+avx"),
    ("llvm.x86.sse42.", "+sse4.2"),
    ("llvm.x86.sse41.", "+sse4.1"),
    ("llvm.x86.sse2.", "+sse2"),
    ("llvm.x86.sse.", "+sse"),
    ("llvm.x86.rdrand.", "+rdrnd"),
    ("llvm.x86.vcvtph2ps.", "+f16c"),
    ("llvm.x86.vcvtps2ph.", "+f16c"),
    ("llvm.aarch64.neon.", "+neon"),
    ("llvm.arm.neon.", "+neon"),
    ("llvm.wasm.", "+simd128")]

def genericIntrinsics : List String :=
  ["llvm.fma.", "llvm.fmuladd.", "llvm.sqrt.", "llvm.fabs.", "llvm.minnum.", "llvm.maxnum.",
    "llvm.ctpop.", "llvm.ctlz.", "llvm.cttz.", "llvm.masked.load.", "llvm.masked.store.",
    "llvm.masked.gather.", "llvm.masked.scatter.", "llvm.prefetch", "llvm.sadd.sat.",
    "llvm.uadd.sat.", "llvm.ssub.sat.", "llvm.usub.sat.", "llvm.vector.reduce."]

def providers (feature : String) : List String :=
  feature :: ((x86Ladder.dropWhile (· != feature)).drop 1)

def providesFeature (features feature : String) : Bool :=
  let items := Text.splitAt ',' features
  (providers feature).any items.contains

def neededFeature? (intrinsic : String) : Option String :=
  (intrinsicFeatures.find? fun row => Text.startsWith intrinsic row.1).map (·.2)

def isGenericIntrinsic (intrinsic : String) : Bool :=
  genericIntrinsics.any (Text.startsWith intrinsic)

def knowsIntrinsic (features intrinsic : String) : Bool :=
  isGenericIntrinsic intrinsic || (neededFeature? intrinsic).any (providesFeature features)

namespace Toolkit

def builtinMachine (spec : MachineRequest) : Except BackendFault Machine :=
  match builtinLayout? spec.triple with
  | some dataLayout =>
      .ok {
        triple := spec.triple
        cpu := spec.cpu
        features := spec.features
        dataLayout
        hasIntrinsic := knowsIntrinsic spec.features }
  | none => .error (.noTarget spec.triple.text)

def builtin : Toolkit where
  triple := Triple.forPlatform
  machine := builtinMachine

end Toolkit

end Lanewise
