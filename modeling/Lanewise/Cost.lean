import Lanewise.Keyword

namespace Lanewise

inductive Construct where
  | assign
  | complexArithOp
  | delete
  | deref
  | funCall
  | funPtrUniform
  | funPtrVarying
  | gather
  | goto
  | load
  | new
  | breakContinue
  | return
  | select
  | simpleArithLogicOp
  | sync
  | taskLaunch
  | invoke
  | typecastComplex
  | typecastSimple
  | uniformIf
  | varyingIf
  | uniformLoop
  | varyingLoop
  | uniformSwitch
  | varyingSwitch
  | assert
  deriving DecidableEq, Repr

namespace Construct

instance : Keyword Construct where
  all :=
    [assign, complexArithOp, delete, deref, funCall, funPtrUniform, funPtrVarying, gather, goto,
      load, new, breakContinue, .return, select, simpleArithLogicOp, sync, taskLaunch, invoke,
      typecastComplex, typecastSimple, uniformIf, varyingIf, uniformLoop, varyingLoop,
      uniformSwitch, varyingSwitch, assert]
  word
    | assign => "Assign"
    | complexArithOp => "ComplexArithOp"
    | delete => "Delete"
    | deref => "Deref"
    | funCall => "FunCall"
    | funPtrUniform => "FunPtrUniform"
    | funPtrVarying => "FunPtrVarying"
    | gather => "Gather"
    | goto => "Goto"
    | load => "Load"
    | new => "New"
    | breakContinue => "BreakContinue"
    | .return => "Return"
    | select => "Select"
    | simpleArithLogicOp => "SimpleArithLogicOp"
    | sync => "Sync"
    | taskLaunch => "TaskLaunch"
    | invoke => "Invoke"
    | typecastComplex => "TypecastComplex"
    | typecastSimple => "TypecastSimple"
    | uniformIf => "UniformIf"
    | varyingIf => "VaryingIf"
    | uniformLoop => "UniformLoop"
    | varyingLoop => "VaryingLoop"
    | uniformSwitch => "UniformSwitch"
    | varyingSwitch => "VaryingSwitch"
    | assert => "Assert"

def weight : Construct → Nat
  | assign | simpleArithLogicOp | typecastSimple => 1
  | load | uniformIf => 2
  | breakContinue | varyingIf => 3
  | complexArithOp | deref | funCall | goto | .return | select | typecastComplex | uniformLoop
  | uniformSwitch => 4
  | varyingLoop => 6
  | gather | assert => 8
  | funPtrUniform | varyingSwitch => 12
  | funPtrVarying => 24
  | delete | new | sync | taskLaunch | invoke => 32

end Construct

structure Cost where
  total : Nat
  deriving DecidableEq, Repr

namespace Cost

def limit : Nat := UInt32.size - 1

def saturate (n : Nat) : Nat := min limit n

def zero : Cost := ⟨0⟩

def add (estimate : Cost) (construct : Construct) (count : UInt32) : Cost :=
  ⟨saturate (estimate.total + saturate (construct.weight * count.toNat))⟩

def merge (estimate nested : Cost) : Cost :=
  ⟨saturate (estimate.total + nested.total)⟩

def ofList (constructs : List Construct) : Cost :=
  constructs.foldl (fun estimate construct => estimate.add construct 1) zero

/-- A function that costs less does not test at its start whether all lanes are on. -/
def maskTestThreshold : Nat := 16

/-- An if statement up to this cost may run both branches under a mask. -/
def predicationThreshold : Nat := 6

/-- A short-circuit expression up to this cost may evaluate both sides. -/
def bothOperandsThreshold : Nat := 10

def allowsPredication (estimate : Cost) : Bool := estimate.total ≤ predicationThreshold

def allowsBothOperands (estimate : Cost) : Bool := estimate.total ≤ bothOperandsThreshold

def testsMask (estimate : Cost) : Bool := maskTestThreshold ≤ estimate.total

end Cost

inductive CostStep where
  | add (register : Nat) (construct : Construct) (count : UInt32)
  | merge (register source : Nat)
  | collect (register : Nat) (constructs : List Construct)
  deriving Repr

abbrev CostRegisters := Nat → Cost

namespace CostRegisters

def initial : CostRegisters := fun _ => .zero

def set (registers : CostRegisters) (register : Nat) (estimate : Cost) : CostRegisters :=
  fun other => if other = register then estimate else registers other

def step (registers : CostRegisters) : CostStep → CostRegisters
  | .add register construct count =>
      registers.set register ((registers register).add construct count)
  | .merge register source =>
      registers.set register ((registers register).merge (registers source))
  | .collect register constructs => registers.set register (.ofList constructs)

def run (steps : List CostStep) : CostRegisters := steps.foldl step initial

end CostRegisters

end Lanewise
