import Lanewise.Isa
import Lanewise.Text.Blank

/-!
# Vector targets

A vector target is an instruction set with an element width and a number of lanes, such as
`avx2-i32x8`. Only the combinations of a fixed table exist, and a `VectorTarget` carries the proof
that it is one of them.
-/

namespace Lanewise

def supportedShapes : List (Isa × Nat × Nat) :=
  [(.sse2, 32, 4), (.sse2, 32, 8),
    (.sse41, 8, 16), (.sse41, 16, 8), (.sse41, 32, 4), (.sse41, 32, 8),
    (.sse42, 8, 16), (.sse42, 16, 8), (.sse42, 32, 4), (.sse42, 32, 8),
    (.avx, 32, 4), (.avx, 32, 8), (.avx, 32, 16), (.avx, 64, 4),
    (.avx2, 8, 32), (.avx2, 16, 16), (.avx2, 32, 4), (.avx2, 32, 8), (.avx2, 32, 16),
    (.avx2, 64, 4),
    (.avx2vnni, 32, 4), (.avx2vnni, 32, 8), (.avx2vnni, 32, 16),
    (.avx512knl, 32, 16),
    (.avx512skx, 32, 4), (.avx512skx, 32, 8), (.avx512skx, 32, 16), (.avx512skx, 16, 32),
    (.avx512skx, 8, 64),
    (.avx512icl, 32, 4), (.avx512icl, 32, 8), (.avx512icl, 32, 16), (.avx512icl, 16, 32),
    (.avx512icl, 8, 64),
    (.avx512spr, 32, 4), (.avx512spr, 32, 8), (.avx512spr, 32, 16), (.avx512spr, 16, 32),
    (.avx512spr, 8, 64),
    (.avx10_2, 32, 4), (.avx10_2, 32, 8), (.avx10_2, 32, 16), (.avx10_2, 16, 32), (.avx10_2, 8, 64),
    (.neon, 8, 16), (.neon, 16, 8), (.neon, 32, 4), (.neon, 32, 8),
    (.wasm, 32, 4)]

structure VectorTarget where
  isa : Isa
  elementBits : Nat
  lanes : Nat
  supported : (isa, elementBits, lanes) ∈ supportedShapes := by decide
  deriving DecidableEq

namespace VectorTarget

def maxLanes : Nat := 64

def all : List VectorTarget :=
  supportedShapes.attach.map fun ⟨(isa, elementBits, lanes), supported⟩ =>
    ⟨isa, elementBits, lanes, supported⟩

/-- The lanes as part of a name. The AVX-512 kinds leave out the element width, which their lanes
determine. -/
def shapeName (isa : Isa) (elementBits lanes : Nat) : String :=
  if isa.isAvx512 then "x" ++ toString lanes
  else "i" ++ toString elementBits ++ "x" ++ toString lanes

def name (target : VectorTarget) : String :=
  target.isa.targetStem ++ "-" ++ shapeName target.isa target.elementBits target.lanes

def nameList : String :=
  Text.commaList (all.map name)

def lookup? (name : String) : Option VectorTarget :=
  all.find? (·.name == name)

def symbolSuffix (target : VectorTarget) : String :=
  Text.replaceChar '.' [] (Text.replaceChar '-' ['_'] target.name)

end VectorTarget

def Isa.defaultTarget : Isa → VectorTarget
  | sse2 => { isa := .sse2, elementBits := 32, lanes := 4 }
  | sse41 => { isa := .sse41, elementBits := 32, lanes := 4 }
  | sse42 => { isa := .sse42, elementBits := 32, lanes := 4 }
  | avx => { isa := .avx, elementBits := 32, lanes := 8 }
  | avx2 => { isa := .avx2, elementBits := 32, lanes := 8 }
  | avx2vnni => { isa := .avx2vnni, elementBits := 32, lanes := 8 }
  | avx512knl => { isa := .avx512knl, elementBits := 32, lanes := 16 }
  | avx512skx => { isa := .avx512skx, elementBits := 32, lanes := 16 }
  | avx512icl => { isa := .avx512icl, elementBits := 32, lanes := 16 }
  | avx512spr => { isa := .avx512spr, elementBits := 32, lanes := 16 }
  | avx10_2 => { isa := .avx10_2, elementBits := 32, lanes := 16 }
  | neon => { isa := .neon, elementBits := 32, lanes := 4 }
  | wasm => { isa := .wasm, elementBits := 32, lanes := 4 }

namespace VectorTarget

def olderSpelling? (name : String) : Option VectorTarget :=
  (Text.afterStem? "sse4-" name).bind fun shape => lookup? ("sse4.2-" ++ shape)

def bareStem? (name : String) : Option VectorTarget :=
  (Isa.all.find? (·.targetStem == name)).map Isa.defaultTarget

def canonical (text : String) : String :=
  Text.lower (String.ofList (Text.trim text.toList))

def ofName? (text : String) : Option VectorTarget :=
  let name := canonical text
  lookup? name <|> olderSpelling? name <|> bareStem? name

end VectorTarget

end Lanewise
