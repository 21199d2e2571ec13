import Lanewise.Keyword

namespace Lanewise

inductive StorageClass where
  | none
  | external
  | static
  | typedef
  | externalC
  | externalSycl
  deriving DecidableEq, Repr

namespace StorageClass

instance : Keyword StorageClass where
  all := [none, external, static, typedef, externalC, externalSycl]
  word
    | none => "none"
    | external => "extern"
    | static => "static"
    | typedef => "typedef"
    | externalC => "extern-c"
    | externalSycl => "extern-sycl"

def isAnyExternal : StorageClass → Bool
  | external | externalC | externalSycl => true
  | _ => false

def spelling : StorageClass → String
  | none => ""
  | external => "extern"
  | static => "static"
  | typedef => "typedef"
  | externalC => "extern \"C\""
  | externalSycl => "extern \"SYCL\""

end StorageClass

inductive AddressSpace where
  | default
  | global
  | constant
  | local
  | generic
  deriving DecidableEq, Repr

namespace AddressSpace

instance : Keyword AddressSpace where
  all := [default, global, constant, .local, generic]
  word
    | default => "default"
    | global => "global"
    | constant => "constant"
    | .local => "local"
    | generic => "generic"

def index : AddressSpace → Nat
  | default => 0
  | global => 1
  | constant => 2
  | .local => 3
  | generic => 4

end AddressSpace

inductive SignedOverflow where
  | nsw
  | none
  deriving DecidableEq, Repr

namespace SignedOverflow

instance : Keyword SignedOverflow where
  all := [nsw, none]
  word
    | nsw => "nsw"
    | none => "none"

end SignedOverflow

end Lanewise
