import Lanewise.Cpu
import Lanewise.VectorTarget

namespace Lanewise

structure X86Features where
  sse2 : Bool := false
  sse41 : Bool := false
  sse42 : Bool := false
  avx : Bool := false
  avx2 : Bool := false
  avxVnni : Bool := false
  avx512Skx : Bool := false
  avx512Knl : Bool := false
  avx512Icl : Bool := false
  avx512Spr : Bool := false
  avx10Version : Nat := 0
  deriving DecidableEq, Repr

namespace X86Features

def ladder (host : X86Features) : List (Bool × Isa) :=
  [(host.sse2, .sse2),
    (host.sse41, .sse41),
    (host.sse42, .sse42),
    (host.avx, .avx),
    (host.avx2, .avx2),
    (host.avx2 && host.avxVnni, .avx2vnni),
    (host.avx512Knl, .avx512knl),
    (host.avx512Skx, .avx512skx),
    (host.avx512Skx && host.avx512Icl, .avx512icl),
    (host.avx512Skx && host.avx512Icl && host.avx512Spr, .avx512spr),
    (host.avx512Skx && 2 ≤ host.avx10Version, .avx10_2)]

def isas (host : X86Features) : List Isa :=
  (host.ladder.filter (·.1)).map (·.2)

end X86Features

structure Host where
  isas : List Isa
  os : Os
  deriving DecidableEq, Repr

namespace Host

def unknown : Host := ⟨[], .linux⟩

def bestIsa? (host : Host) : Option Isa := Isa.best? host.isas

def defaultTarget (host : Host) : VectorTarget :=
  (host.bestIsa?.getD .sse2).defaultTarget

def nativeCpu? (host : Host) (arch : Arch) : Option Cpu :=
  (Isa.best? (host.isas.filter (·.family = arch.family))).map (Cpu.baseline · arch)

end Host

end Lanewise
