import Lanewise.TargetFault

/-!
# Toolkits

A toolkit stands for a code generator. It names the triple of a platform and makes a machine for a
triple, a processor and a list of features. Both are functions, so a toolkit answers the same
question always alike.
-/

namespace Lanewise

structure MachineRequest where
  triple : Triple
  cpu : String
  features : String
  pic : PicLevel
  codeModel : CodeModel
  deriving DecidableEq, Repr

structure Machine where
  triple : Triple
  cpu : String
  features : String
  dataLayout : String
  hasIntrinsic : String → Bool

structure Toolkit where
  triple : Arch → Os → Except TargetFault Triple
  machine : MachineRequest → Except BackendFault Machine

end Lanewise
