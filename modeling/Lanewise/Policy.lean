import Lanewise.Optimization
import Lanewise.Target.Basic

/-!
# Code-generation policy

Each decision has two factors: the hardware has to offer a feature, and the switches must not turn
it off. A switch that disables always wins, and a missing capability always takes the fallback.
-/

namespace Lanewise

inductive LaneAccess where
  | native
  | scalarized
  deriving DecidableEq, Repr

namespace LaneAccess

def title : LaneAccess → String
  | native => "Native"
  | scalarized => "Scalarized"

instance : Keyword LaneAccess where
  all := [native, scalarized]
  word
    | native => "native"
    | scalarized => "scalarized"

def ofNative (usable : Bool) : LaneAccess :=
  if usable then native else scalarized

end LaneAccess

inductive MaskedStore where
  | native
  | blend
  | scalarize
  deriving DecidableEq, Repr

namespace MaskedStore

def title : MaskedStore → String
  | native => "Native"
  | blend => "Blend"
  | scalarize => "Scalarize"

instance : Keyword MaskedStore where
  all := [native, blend, scalarize]
  word
    | native => "native"
    | blend => "blend"
    | scalarize => "scalarize"

end MaskedStore

structure Policy where
  target : Target
  opt : Switches

namespace Policy

def usesGather (policy : Policy) : Bool :=
  policy.target.capabilities.gather && !policy.opt.disableGathers

def usesScatter (policy : Policy) : Bool :=
  policy.target.capabilities.scatter && !policy.opt.disableScatters

def gather (policy : Policy) : LaneAccess := .ofNative policy.usesGather

def scatter (policy : Policy) : LaneAccess := .ofNative policy.usesScatter

def maskedStore (policy : Policy) : MaskedStore :=
  if policy.target.profile.maskingIsFree then .native
  else if policy.target.isValid && !policy.opt.disableBlendedMaskedStores then .blend
  else .scalarize

def fusesMultiplyAdd (policy : Policy) : Bool :=
  policy.target.capabilities.fma && !policy.opt.disableFma

def coalesces (policy : Policy) : Bool :=
  policy.target.isValid && !policy.opt.disableCoalescing

def usesZmm (policy : Policy) : Bool :=
  policy.target.isa.isAvx512 && policy.target.isValid && !policy.opt.disableZmm

def keepsAsserts (policy : Policy) : Bool := !policy.opt.disableAsserts

def force32BitAddressing (policy : Policy) : Bool :=
  policy.opt.force32BitAddressing && !policy.target.is32Bit

def attributeList (policy : Policy) : List (String × String) :=
  policy.target.attributeList policy.opt.disableZmm

end Policy

end Lanewise
