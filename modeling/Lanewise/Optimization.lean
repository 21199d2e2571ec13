import Lanewise.TargetFault

namespace Lanewise

inductive OptLevel where
  | none
  | size
  | full
  deriving DecidableEq, Repr

namespace OptLevel

instance : Keyword OptLevel where
  all := [none, size, full]
  word
    | none => "none"
    | size => "size"
    | full => "full"

def number : OptLevel → Nat
  | none => 0
  | size => 1
  | full => 2

def ofNumber : Nat → OptLevel
  | 0 => none
  | 1 => size
  | _ => full

def display (level : OptLevel) : String := "O" ++ toString level.number

end OptLevel

structure Switches where
  level : OptLevel := .size
  fastMath : Bool := false
  fastMaskedVload : Bool := false
  unrollLoops : Bool := true
  force32BitAddressing : Bool := true
  disableAsserts : Bool := false
  disableGathers : Bool := false
  disableScatters : Bool := false
  disableFma : Bool := false
  forceAlignedMemory : Bool := false
  enableLoadStoreVectorizer : Bool := false
  enableSlpVectorizer : Bool := false
  disableMaskAllOnOptimizations : Bool := false
  disableHandlePseudoMemoryOps : Bool := false
  disableBlendedMaskedStores : Bool := false
  disableCoherentControlFlow : Bool := false
  disableUniformControlFlow : Bool := false
  disableGatherScatterOptimizations : Bool := false
  disableMaskedStoreToStore : Bool := false
  disableGatherScatterFlattening : Bool := false
  disableUniformMemoryOptimizations : Bool := false
  disableCoalescing : Bool := false
  disableZmm : Bool := false
  resetFtzDaz : Bool := false
  deriving DecidableEq, Repr

inductive OptFlag where
  | fastMath
  | fastMaskedVload
  | disableLoopUnroll
  | forceAlignedMemory
  | disableAssertions
  | disableFma
  | disableGathers
  | disableScatters
  | disableBlendedMaskedStores
  | disableCoherentControlFlow
  | disableUniformControlFlow
  | disableGatherScatterOptimizations
  | disableMaskedStoreToStore
  | disableGatherScatterFlattening
  | disableUniformMemoryOptimizations
  | disableCoalescing
  | disableZmm
  | disableHandlePseudoMemoryOps
  | disableMaskAllOnOptimizations
  | enableLdstVectorizer
  | enableSlpVectorizer
  | resetFtzDaz
  | addressing32
  | addressing64
  deriving DecidableEq, Repr

namespace OptFlag

def all : List OptFlag :=
  [fastMath, fastMaskedVload, disableLoopUnroll, forceAlignedMemory, disableAssertions, disableFma,
    disableGathers, disableScatters, disableBlendedMaskedStores, disableCoherentControlFlow,
    disableUniformControlFlow, disableGatherScatterOptimizations, disableMaskedStoreToStore,
    disableGatherScatterFlattening, disableUniformMemoryOptimizations, disableCoalescing,
    disableZmm, disableHandlePseudoMemoryOps, disableMaskAllOnOptimizations, enableLdstVectorizer,
    enableSlpVectorizer, resetFtzDaz, addressing32, addressing64]

def name : OptFlag → String
  | fastMath => "fast-math"
  | fastMaskedVload => "fast-masked-vload"
  | disableLoopUnroll => "disable-loop-unroll"
  | forceAlignedMemory => "force-aligned-memory"
  | disableAssertions => "disable-assertions"
  | disableFma => "disable-fma"
  | disableGathers => "disable-gathers"
  | disableScatters => "disable-scatters"
  | disableBlendedMaskedStores => "disable-blended-masked-stores"
  | disableCoherentControlFlow => "disable-coherent-control-flow"
  | disableUniformControlFlow => "disable-uniform-control-flow"
  | disableGatherScatterOptimizations => "disable-gather-scatter-optimizations"
  | disableMaskedStoreToStore => "disable-masked-store-to-store"
  | disableGatherScatterFlattening => "disable-gather-scatter-flattening"
  | disableUniformMemoryOptimizations => "disable-uniform-memory-optimizations"
  | disableCoalescing => "disable-coalescing"
  | disableZmm => "disable-zmm"
  | disableHandlePseudoMemoryOps => "disable-handle-pseudo-memory-ops"
  | disableMaskAllOnOptimizations => "disable-mask-all-on-optimizations"
  | enableLdstVectorizer => "enable-ldst-vectorizer"
  | enableSlpVectorizer => "enable-slp-vectorizer"
  | resetFtzDaz => "reset-ftz-daz"
  | addressing32 => "addressing=32"
  | addressing64 => "addressing=64"

def unlistedNames : OptFlag → List String
  | enableLdstVectorizer => ["enable-load-store-vectorizer"]
  | _ => []

def ofName? (text : String) : Option OptFlag :=
  all.find? fun flag => flag.name == text || flag.unlistedNames.contains text

def apply (opt : Switches) : OptFlag → Switches
  | fastMath => { opt with fastMath := true }
  | fastMaskedVload => { opt with fastMaskedVload := true }
  | disableLoopUnroll => { opt with unrollLoops := false }
  | forceAlignedMemory => { opt with forceAlignedMemory := true }
  | disableAssertions => { opt with disableAsserts := true }
  | disableFma => { opt with disableFma := true }
  | disableGathers => { opt with disableGathers := true }
  | disableScatters => { opt with disableScatters := true }
  | disableBlendedMaskedStores => { opt with disableBlendedMaskedStores := true }
  | disableCoherentControlFlow => { opt with disableCoherentControlFlow := true }
  | disableUniformControlFlow => { opt with disableUniformControlFlow := true }
  | disableGatherScatterOptimizations => { opt with disableGatherScatterOptimizations := true }
  | disableMaskedStoreToStore => { opt with disableMaskedStoreToStore := true }
  | disableGatherScatterFlattening => { opt with disableGatherScatterFlattening := true }
  | disableUniformMemoryOptimizations => { opt with disableUniformMemoryOptimizations := true }
  | disableCoalescing => { opt with disableCoalescing := true }
  | disableZmm => { opt with disableZmm := true }
  | disableHandlePseudoMemoryOps => { opt with disableHandlePseudoMemoryOps := true }
  | disableMaskAllOnOptimizations => { opt with disableMaskAllOnOptimizations := true }
  | enableLdstVectorizer => { opt with enableLoadStoreVectorizer := true }
  | enableSlpVectorizer => { opt with enableSlpVectorizer := true }
  | resetFtzDaz => { opt with resetFtzDaz := true }
  | addressing32 => { opt with force32BitAddressing := true }
  | addressing64 => { opt with force32BitAddressing := false }

end OptFlag

namespace Switches

def setFlag (opt : Switches) (name : String) : Except TargetFault Switches :=
  match OptFlag.ofName? name with
  | some flag => .ok (OptFlag.apply opt flag)
  | none => .error (.unknownOptFlag name)

def setFlags (opt : Switches) (names : List String) : Except TargetFault Switches :=
  names.foldlM setFlag opt

def isOptimizing (opt : Switches) : Bool := opt.level ≠ .none

end Switches

end Lanewise
