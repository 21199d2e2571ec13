import Lanewise.Text.Basic

namespace Lanewise

inductive IsaFamily where
  | x86
  | arm
  | wasm
  deriving DecidableEq, Repr

namespace IsaFamily

def all : List IsaFamily := [.x86, .arm, .wasm]

def name : IsaFamily → String
  | x86 => "x86"
  | arm => "arm"
  | wasm => "wasm"

end IsaFamily

inductive Isa where
  | sse2
  | sse41
  | sse42
  | avx
  | avx2
  | avx2vnni
  | avx512knl
  | avx512skx
  | avx512icl
  | avx512spr
  | avx10_2
  | neon
  | wasm
  deriving DecidableEq, Repr

namespace Isa

def all : List Isa :=
  [sse2, sse41, sse42, avx, avx2, avx2vnni, avx512knl, avx512skx, avx512icl, avx512spr, avx10_2,
    neon, wasm]

def rank : Isa → Nat
  | sse2 => 0
  | sse41 => 1
  | sse42 => 2
  | avx => 3
  | avx2 => 4
  | avx2vnni => 5
  | avx512knl => 6
  | avx512skx => 7
  | avx512icl => 8
  | avx512spr => 9
  | avx10_2 => 10
  | neon => 11
  | wasm => 12

instance : LE Isa := ⟨fun a b => a.rank ≤ b.rank⟩

instance (a b : Isa) : Decidable (a ≤ b) := Nat.decLe a.rank b.rank

def displayName : Isa → String
  | sse2 => "SSE2"
  | sse41 => "SSE4.1"
  | sse42 => "SSE4.2"
  | avx => "AVX"
  | avx2 => "AVX2"
  | avx2vnni => "AVX2VNNI"
  | avx512knl => "KNL"
  | avx512skx => "SKX"
  | avx512icl => "ICL"
  | avx512spr => "SPR"
  | avx10_2 => "AVX10.2"
  | neon => "NEON"
  | wasm => "WASM"

def targetStem : Isa → String
  | sse2 => "sse2"
  | sse41 => "sse4.1"
  | sse42 => "sse4.2"
  | avx => "avx1"
  | avx2 => "avx2"
  | avx2vnni => "avx2vnni"
  | avx512knl => "avx512knl"
  | avx512skx => "avx512skx"
  | avx512icl => "avx512icl"
  | avx512spr => "avx512spr"
  | avx10_2 => "avx10.2"
  | neon => "neon"
  | wasm => "wasm"

def symbolName (isa : Isa) : String :=
  Text.replaceChar '.' [] (Text.lower isa.displayName)

def family : Isa → IsaFamily
  | neon => .arm
  | wasm => .wasm
  | _ => .x86

def isAvx512 : Isa → Bool
  | avx512knl | avx512skx | avx512icl | avx512spr | avx10_2 => true
  | _ => false

def stronger (a b : Isa) : Isa :=
  if a ≤ b then b else a

def best? : List Isa → Option Isa
  | [] => none
  | first :: rest => some (rest.foldl stronger first)

def answersTo (isa : Isa) (text : String) : Bool :=
  Text.sameLetters isa.displayName text || isa.targetStem == text

def ofName? (text : String) : Option Isa :=
  all.find? (·.answersTo text)

theorem mem_all (isa : Isa) : isa ∈ all := by
  cases isa <;> decide

end Isa

end Lanewise
