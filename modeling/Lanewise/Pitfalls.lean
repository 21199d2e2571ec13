import Lanewise.Text.Basic
import Lanewise.Text.Blank

/-!
# Performance pitfalls

A set of performance pitfalls, each kind one bit of a word. Bits without a kind may be set as well:
they are kept, but no kind answers for them.
-/

namespace Lanewise

structure Pitfalls where
  bits : UInt32
  deriving DecidableEq, Repr

inductive FlagFault where
  | emptyFlag
  | invalidHex
  | unknownName
  deriving DecidableEq, Repr

def FlagFault.message : FlagFault → String
  | emptyFlag => "encountered empty flag"
  | invalidHex => "invalid hex flag"
  | unknownName => "unrecognized named flag"

namespace Pitfalls

def empty : Pitfalls := ⟨0⟩

def cvtUintFloat : Pitfalls := ⟨1⟩

def cvtUintFloat16 : Pitfalls := ⟨2⟩

def divModInt : Pitfalls := ⟨4⟩

def variableShiftRight : Pitfalls := ⟨8⟩

def kinds : List (String × Pitfalls) :=
  [("CVT_UINT_FLOAT", cvtUintFloat), ("CVT_UINT_FLOAT16", cvtUintFloat16),
    ("DIV_MOD_INT", divModInt), ("VARIABLE_SHIFT_RIGHT", variableShiftRight)]

def union (first second : Pitfalls) : Pitfalls := ⟨first.bits ||| second.bits⟩

def contains (set kind : Pitfalls) : Bool := set.bits &&& kind.bits == kind.bits

def kindMask : Pitfalls :=
  kinds.foldl (fun mask kind => mask.union kind.2) empty

def known (set : Pitfalls) : Pitfalls := ⟨set.bits &&& kindMask.bits⟩

def unknown (set : Pitfalls) : Pitfalls := ⟨set.bits &&& ~~~kindMask.bits⟩

def names (set : Pitfalls) : List String :=
  (kinds.filter fun kind => set.contains kind.2).map (·.1)

def parts (set : Pitfalls) : List Pitfalls :=
  (kinds.map (·.2)).filter set.contains ++ if set.unknown = empty then [] else [set.unknown]

def advice (set : Pitfalls) : String :=
  if set = cvtUintFloat then
    "conversion from unsigned int to float is slow; use int if possible"
  else if set = cvtUintFloat16 then
    "conversion from unsigned int to float16 is slow; use int if possible"
  else if set = divModInt then
    "division and modulus of varying integer types are slow"
  else if set = variableShiftRight then
    "shift right by a varying amount is slow; use a uniform shift if possible"
  else
    "multiple performance pitfalls"

def display (set : Pitfalls) : String :=
  String.intercalate "|" set.names

def text (set : Pitfalls) : String :=
  String.intercalate " | "
    (set.names ++ if set.unknown = empty then [] else ["0x" ++ Text.hex set.unknown.bits.toNat])

def ofPart (part : List Char) : Except FlagFault Pitfalls :=
  match part with
  | [] => .error .emptyFlag
  | '0' :: 'x' :: digits =>
      match Text.readWordIn? 16 digits with
      | some bits => .ok ⟨bits⟩
      | none => .error .invalidHex
  | part =>
      match kinds.find? fun kind => kind.1.toList == part with
      | some kind => .ok kind.2
      | none => .error .unknownName

def ofText (text : String) : Except FlagFault Pitfalls := do
  if (Text.trim text.toList).isEmpty then return empty
  let parts ← (text.toList.splitOn '|').mapM fun part => ofPart (Text.trim part)
  return parts.foldl union empty

end Pitfalls

end Lanewise
