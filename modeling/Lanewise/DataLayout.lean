import Lanewise.Keyword
import Lanewise.Text.Basic

/-!
# Data layouts

A code generator describes the storage of a platform in one text of pieces separated by dashes. Each
piece is a head followed by arguments, with colons between them.
-/

namespace Lanewise

inductive Scalar where
  | bool
  | i8
  | i16
  | i32
  | i64
  | f16
  | f32
  | f64
  | ptr
  deriving DecidableEq, Repr

namespace Scalar

instance : Keyword Scalar where
  all := [bool, i8, i16, i32, i64, f16, f32, f64, ptr]
  word
    | bool => "bool"
    | i8 => "i8"
    | i16 => "i16"
    | i32 => "i32"
    | i64 => "i64"
    | f16 => "f16"
    | f32 => "f32"
    | f64 => "f64"
    | ptr => "ptr"

end Scalar

inductive Endianness where
  | little
  | big
  deriving DecidableEq, Repr

instance : Keyword Endianness where
  all := [.little, .big]
  word
    | .little => "little"
    | .big => "big"

abbrev AlignTable := List (UInt32 × UInt32)

namespace AlignTable

def insert (width align : UInt32) : AlignTable → AlignTable
  | [] => [(width, align)]
  | entry :: rest =>
      if width < entry.1 then (width, align) :: entry :: rest
      else if width = entry.1 then (width, align) :: rest
      else entry :: insert width align rest

def get? (width : UInt32) (table : AlignTable) : Option UInt32 :=
  (table.find? fun entry => entry.1 == width).map (·.2)

def ceiling? (width : UInt32) (table : AlignTable) : Option UInt32 :=
  (table.find? fun entry => width ≤ entry.1).map (·.2)

end AlignTable

structure DataLayout where
  source : String
  endianness : Endianness := .little
  pointerBits : UInt32 := 64
  pointerAlign : UInt32 := 64
  /-- Alignment of the stack in bits, 0 when it is not stated. -/
  stackAlign : UInt32 := 0
  nativeInts : List UInt32 := []
  intAlign : AlignTable := [(1, 8), (8, 8), (16, 16), (32, 32), (64, 32)]
  floatAlign : AlignTable := [(16, 16), (32, 32), (64, 64), (128, 128)]
  deriving DecidableEq, Repr

inductive LayoutFault where
  | notANumber (text : String)
  | incompletePointer (piece : String)
  | incompleteAlignment (piece : String)
  | unrecognized (piece : String)
  deriving DecidableEq, Repr

def LayoutFault.message : LayoutFault → String
  | notANumber text => "'" ++ text ++ "' is not a number"
  | incompletePointer piece => "pointer spec '" ++ piece ++ "' is incomplete"
  | incompleteAlignment piece => "alignment spec '" ++ piece ++ "' is incomplete"
  | unrecognized piece => "unrecognized spec '" ++ piece ++ "'"

inductive LayoutSpec where
  | endian (order : Endianness)
  | pointer (bits align : UInt32)
  | intAlign (width align : UInt32)
  | floatAlign (width align : UInt32)
  | nativeInts (widths : List UInt32)
  | stack (align : UInt32)
  | other
  deriving DecidableEq, Repr

namespace LayoutSpec

def number (text : List Char) : Except LayoutFault UInt32 :=
  match Text.readWord? text with
  | some n => .ok n
  | none => .error (.notANumber (String.ofList text))

def ofPointer (piece space : List Char) (arguments : List (List Char)) :
    Except LayoutFault LayoutSpec :=
  if space = [] ∨ space = ['0'] then
    match arguments with
    | bits :: align :: _ => do
        let bits ← number bits
        let align ← number align
        return .pointer bits align
    | _ => .error (.incompletePointer (String.ofList piece))
  else .ok .other

def ofAlignment (piece width : List Char) (arguments : List (List Char)) :
    Except LayoutFault (UInt32 × UInt32) := do
  let width ← number width
  match arguments with
  | align :: _ => return (width, ← number align)
  | [] => .error (.incompleteAlignment (String.ofList piece))

def ofParts (piece head : List Char) (arguments : List (List Char)) :
    Except LayoutFault LayoutSpec :=
  match head with
  | ['e'] => .ok (.endian .little)
  | ['E'] => .ok (.endian .big)
  | 'p' :: space => ofPointer piece space arguments
  | 'i' :: width => (ofAlignment piece width arguments).map fun entry => .intAlign entry.1 entry.2
  | 'f' :: width => (ofAlignment piece width arguments).map fun entry => .floatAlign entry.1 entry.2
  | ['n', 'i'] => .ok .other
  | 'n' :: width => ((width :: arguments).mapM number).map .nativeInts
  | 'S' :: align => (number align).map .stack
  | 'm' :: _ | 'v' :: _ | 'a' :: _ | 'F' :: _ | 'A' :: _ | 'P' :: _ | 'G' :: _ => .ok .other
  | _ => .error (.unrecognized (String.ofList piece))

def ofPiece (piece : List Char) : Except LayoutFault LayoutSpec :=
  match piece.splitOn ':' with
  | head :: arguments => ofParts piece head arguments
  | [] => ofParts piece [] []

end LayoutSpec

structure StructPlacement where
  offsets : List Nat
  size : Nat
  align : Nat
  deriving DecidableEq, Repr

def roundUp (n unit : Nat) : Nat := (n + unit - 1) / unit * unit

namespace DataLayout

def pieces (text : String) : List (List Char) :=
  (text.toList.splitOn '-').filter fun piece => !piece.isEmpty

def apply (layout : DataLayout) : LayoutSpec → DataLayout
  | .endian order => { layout with endianness := order }
  | .pointer bits align => { layout with pointerBits := bits, pointerAlign := align }
  | .intAlign width align => { layout with intAlign := layout.intAlign.insert width align }
  | .floatAlign width align => { layout with floatAlign := layout.floatAlign.insert width align }
  | .nativeInts widths => { layout with nativeInts := widths }
  | .stack align => { layout with stackAlign := align }
  | .other => layout

def parse (text : String) : Except LayoutFault DataLayout := do
  let specs ← (pieces text).mapM LayoutSpec.ofPiece
  return specs.foldl apply { source := text }

def sizeOf (layout : DataLayout) : Scalar → Nat
  | .bool | .i8 => 1
  | .i16 | .f16 => 2
  | .i32 | .f32 => 4
  | .i64 | .f64 => 8
  | .ptr => layout.pointerBits.toNat / 8

/-- Alignment in bits of an integer. A width that is not listed takes the alignment of the next
larger one that is, and otherwise its own width. -/
def integerAlign (layout : DataLayout) (width : UInt32) : UInt32 :=
  (layout.intAlign.ceiling? width).getD width

def alignBits (layout : DataLayout) : Scalar → UInt32
  | .bool | .i8 => layout.integerAlign 8
  | .i16 => layout.integerAlign 16
  | .i32 => layout.integerAlign 32
  | .i64 => layout.integerAlign 64
  | .f16 => (layout.floatAlign.get? 16).getD 16
  | .f32 => (layout.floatAlign.get? 32).getD 32
  | .f64 => (layout.floatAlign.get? 64).getD 64
  | .ptr => layout.pointerAlign

def alignOf (layout : DataLayout) (scalar : Scalar) : Nat :=
  max ((layout.alignBits scalar).toNat / 8) 1

def place (layout : DataLayout) (start : Nat) : List Scalar → List Nat × Nat
  | [] => ([], start)
  | field :: rest =>
      let offset := roundUp start (layout.alignOf field)
      let (offsets, finish) := layout.place (offset + layout.sizeOf field) rest
      (offset :: offsets, finish)

def structAlign (layout : DataLayout) (fields : List Scalar) : Nat :=
  fields.foldl (fun align field => max align (layout.alignOf field)) 1

def placeStruct (layout : DataLayout) (fields : List Scalar) : StructPlacement :=
  let (offsets, finish) := layout.place 0 fields
  let align := layout.structAlign fields
  { offsets, size := roundUp finish align, align }

end DataLayout

end Lanewise
