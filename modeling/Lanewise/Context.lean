import Lanewise.Arena.Basic
import Lanewise.Policy
import Lanewise.Settings
import Lanewise.Source

/-!
# Compilation contexts

A context is the state of one compilation. It is set up while configuring, becomes active with a
target, which freezes its configuration, and is torn down in the end, which releases everything that
it owns. An operation that its phase does not allow fails and changes nothing.
-/

namespace Lanewise

inductive Phase where
  | configuring
  | active
  | tornDown
  deriving DecidableEq, Repr

namespace Phase

def title : Phase → String
  | configuring => "configuring"
  | active => "active"
  | tornDown => "torn down"

instance : Keyword Phase where
  all := [configuring, active, tornDown]
  word
    | configuring => "configuring"
    | active => "active"
    | tornDown => "torn-down"

end Phase

inductive Activity where
  | changingSettings
  | changingOptions
  | activating
  | queryingTarget
  | allocatingObjects
  | silencingWarnings
  | selectingDumpStages
  | selectingSkippedStages
  deriving DecidableEq, Repr

def Activity.title : Activity → String
  | changingSettings => "changing settings"
  | changingOptions => "changing optimization options"
  | activating => "activating"
  | queryingTarget => "querying the target"
  | allocatingObjects => "allocating compiler objects"
  | silencingWarnings => "suppressing warnings"
  | selectingDumpStages => "selecting dump stages"
  | selectingSkippedStages => "selecting skipped stages"

inductive ContextFault where
  | invalidTarget (target : VectorTarget) (cause : TargetFault)
  | wrongPhase (activity : Activity) (phase : Phase)
  | stageOutOfRange (stage : UInt32)
  deriving DecidableEq

/-! ## Optimization stages -/

namespace Stage

def first : UInt32 := 0

def initial : UInt32 := 10

def last : UInt32 := 1000

def insert (stage : UInt32) : List UInt32 → List UInt32
  | [] => [stage]
  | head :: rest =>
      if stage < head then stage :: head :: rest
      else if stage = head then head :: rest
      else head :: insert stage rest

end Stage

def ContextFault.message : ContextFault → String
  | invalidTarget target _ => "cannot compile for target '" ++ target.name ++ "'"
  | wrongPhase activity phase =>
      activity.title ++ " is not allowed while the context is " ++ phase.title
  | stageOutOfRange stage =>
      "optimization stage " ++ toString stage.toNat ++ " is out of range ("
        ++ toString Stage.first.toNat ++ "..=" ++ toString Stage.last.toNat ++ ")"

def ContextFault.fullMessage : ContextFault → String
  | invalidTarget target cause => (invalidTarget target cause).message ++ ": " ++ cause.message
  | failure => failure.message

/-! ## Contexts -/

structure Context (κ α : Type) [DecidableEq κ] [Hashable κ] where
  host : Host
  phase : Phase
  arena : Arena κ α
  target : Option Target
  toolkit : Option Toolkit
  opt : Switches
  settings : Settings
  silencedLines : SilencedLines
  dumpStages : List UInt32
  skipStages : List UInt32

namespace Context

variable {κ α : Type} [DecidableEq κ] [Hashable κ]

def new (host : Host) (toolkit : Toolkit) : Context κ α where
  host
  phase := .configuring
  arena := .empty
  target := none
  toolkit := some toolkit
  opt := {}
  settings := {}
  silencedLines := .empty
  dumpStages := []
  skipStages := []

def refusal (ctx : Context κ α) (activity : Activity) : ContextFault :=
  .wrongPhase activity ctx.phase

def requirePhase (ctx : Context κ α) (phase : Phase) (activity : Activity) :
    Except ContextFault Unit :=
  require (ctx.phase = phase) (ctx.refusal activity)

def requireOpen (ctx : Context κ α) (activity : Activity) : Except ContextFault Unit :=
  require (ctx.phase ≠ .tornDown) (ctx.refusal activity)

/-! ## Configuring -/

def configure (ctx : Context κ α) (edit : Settings → Settings) :
    Except ContextFault (Context κ α) := do
  ctx.requirePhase .configuring .changingSettings
  return { ctx with settings := edit ctx.settings }

def editSwitches (ctx : Context κ α) (edit : Switches → Switches) :
    Except ContextFault (Context κ α) := do
  ctx.requirePhase .configuring .changingOptions
  return { ctx with opt := edit ctx.opt }

/-- The settings once a target is built: it settles an uninitialized calling convention. -/
def settle (settings : Settings) (target : Target) : Settings :=
  if settings.callingConv = .uninitialized then
    { settings with callingConv := target.callingConv }
  else settings

def activate (ctx : Context κ α) (request : TargetRequest) : Except ContextFault (Context κ α) := do
  ctx.requirePhase .configuring .activating
  let toolkit ← orFail (ctx.refusal .activating) ctx.toolkit
  let target ← (Target.create ctx.host toolkit request).mapError (.invalidTarget request.target)
  return { ctx with
    settings := settle ctx.settings target
    phase := .active
    target := some target }

def activationLog (ctx : Context κ α) (request : TargetRequest) : List LogRecord :=
  match ctx.phase, ctx.toolkit with
  | .configuring, some toolkit =>
      let target := Target.build ctx.host toolkit request
      target.buildLog ++
        match target.error? with
        | some failure =>
            [⟨.error, "cannot compile for target '" ++ request.target.name ++ "': "
              ++ failure.message⟩]
        | none => [⟨.info, "compilation context active for " ++ target.display⟩]
  | _, _ => []

/-! ## Questions to an active context -/

def activeTarget (ctx : Context κ α) : Except ContextFault Target := do
  ctx.requirePhase .active .queryingTarget
  orFail (ctx.refusal .queryingTarget) ctx.target

def os (ctx : Context κ α) : Except ContextFault Os := do
  let target ← ctx.activeTarget
  return target.os

def policy (ctx : Context κ α) : Except ContextFault Policy := do
  let target ← ctx.activeTarget
  return { target, opt := ctx.opt }

def activeArena (ctx : Context κ α) : Except ContextFault (Arena κ α) := do
  ctx.requirePhase .active .allocatingObjects
  return ctx.arena

def register (ctx : Context κ α) (kind : κ) (object : α) :
    Except ContextFault (ObjectId κ × Context κ α) := do
  let arena ← ctx.activeArena
  let (id, arena) := arena.register kind object
  return (id, { ctx with arena })

/-! ## Warnings and stages -/

def silence (ctx : Context κ α) (line : UInt32) (file : String) :
    Except ContextFault (Context κ α) := do
  ctx.requireOpen .silencingWarnings
  return { ctx with silencedLines := ctx.silencedLines.insert line file }

def silences (ctx : Context κ α) (span : Span) : Bool :=
  ctx.settings.disableWarnings || ctx.silencedLines.covers span

def requireStage (stage : UInt32) : Except ContextFault Unit :=
  require (Stage.first ≤ stage ∧ stage ≤ Stage.last) (.stageOutOfRange stage)

def selectStage (ctx : Context κ α) (activity : Activity) (stage : UInt32)
    (selected : Context κ α) : Except ContextFault (Context κ α) := do
  ctx.requireOpen activity
  requireStage stage
  return selected

def dumpAfter (ctx : Context κ α) (stage : UInt32) : Except ContextFault (Context κ α) :=
  ctx.selectStage .selectingDumpStages stage
    { ctx with dumpStages := Stage.insert stage ctx.dumpStages }

def leaveOut (ctx : Context κ α) (stage : UInt32) : Except ContextFault (Context κ α) :=
  ctx.selectStage .selectingSkippedStages stage
    { ctx with skipStages := Stage.insert stage ctx.skipStages }

def dumpsAfter (ctx : Context κ α) (stage : UInt32) : Bool := ctx.dumpStages.contains stage

def leavesOut (ctx : Context κ α) (stage : UInt32) : Bool := ctx.skipStages.contains stage

def reportsAt (ctx : Context κ α) (span : Span) : Bool :=
  ctx.settings.emitPerfWarnings && !ctx.silences span

/-- Reports a pitfall: whether it was reported, and the context after that. Nothing is reported
without a target, where reports are off, where the span is silenced, where the pitfall does not
matter on the target, and where it has been reported before. -/
def reportPitfall (ctx : Context κ α) (kinds : Pitfalls) (span : Span) :
    Bool × Context κ α :=
  match ctx.activeTarget with
  | .error _ => (false, ctx)
  | .ok target =>
      if ctx.reportsAt span then
        let (taken, target) := target.claimReport kinds
        (taken, { ctx with target := some target })
      else (false, ctx)

def pitfallRecord (span : Span) (message : String) : LogRecord :=
  ⟨.warn, span.display ++ ": performance warning: " ++ message⟩

def markReported (ctx : Context κ α) (kinds : Pitfalls) : Except ContextFault (Context κ α) := do
  let target ← ctx.activeTarget
  return { ctx with target := some (target.markReported kinds) }

def askIntrinsic (ctx : Context κ α) (name : String) (span : Span) :
    Except ContextFault (Bool × List LogRecord) := do
  let target ← ctx.activeTarget
  let supported := target.hasIntrinsic name
  let entries :=
    if supported || ctx.silences span then []
    else
      [⟨.error, span.display ++ ": intrinsic '" ++ name ++ "' is not supported on "
        ++ target.display⟩]
  return (supported, entries)

/-! ## The end -/

def tearDown (ctx : Context κ α) : List (κ × α) × Context κ α :=
  if ctx.phase = .tornDown then ([], ctx)
  else
    let (objects, arena) := ctx.arena.drain
    (objects, { ctx with arena, target := none, toolkit := none, phase := .tornDown })

def tearDownLog (ctx : Context κ α) : List LogRecord :=
  if ctx.phase = .tornDown then []
  else
    [⟨.info, "compilation context torn down (" ++ toString ctx.arena.contents.length
      ++ " objects released)"⟩]

/-! ## The life of a context -/

inductive Op (κ α : Type) where
  | configure (edit : Settings → Settings)
  | editSwitches (edit : Switches → Switches)
  | activate (request : TargetRequest)
  | register (kind : κ) (object : α)
  | silence (line : UInt32) (file : String)
  | dumpAfter (stage : UInt32)
  | leaveOut (stage : UInt32)
  | reportPitfall (kinds : Pitfalls) (span : Span) (message : String)
  | markReported (kinds : Pitfalls)
  | askIntrinsic (name : String) (span : Span)
  | tearDown

inductive Answer (κ α : Type) where
  | done
  | refused (failure : ContextFault)
  | registered (id : ObjectId κ)
  | warned (reported : Bool)
  | supported (usable : Bool)
  | released (objects : List (κ × α))

structure Outcome (κ α : Type) where
  answer : Answer κ α
  log : List LogRecord := []

def settleStep (ctx : Context κ α) (log : List LogRecord) :
    Except ContextFault (Context κ α) → Outcome κ α × Context κ α
  | .ok next => ({ answer := .done, log }, next)
  | .error failure => ({ answer := .refused failure, log }, ctx)

def step (ctx : Context κ α) : Op κ α → Outcome κ α × Context κ α
  | .configure edit => ctx.settleStep [] (ctx.configure edit)
  | .editSwitches edit => ctx.settleStep [] (ctx.editSwitches edit)
  | .activate request => ctx.settleStep (ctx.activationLog request) (ctx.activate request)
  | .register kind object =>
      match ctx.register kind object with
      | .ok (id, next) => ({ answer := .registered id }, next)
      | .error failure => ({ answer := .refused failure }, ctx)
  | .silence line file => ctx.settleStep [] (ctx.silence line file)
  | .dumpAfter stage => ctx.settleStep [] (ctx.dumpAfter stage)
  | .leaveOut stage => ctx.settleStep [] (ctx.leaveOut stage)
  | .reportPitfall kinds span message =>
      let (reported, next) := ctx.reportPitfall kinds span
      ({ answer := .warned reported
         log := if reported then [pitfallRecord span message] else [] }, next)
  | .markReported kinds => ctx.settleStep [] (ctx.markReported kinds)
  | .askIntrinsic name span =>
      match ctx.askIntrinsic name span with
      | .ok (usable, log) => ({ answer := .supported usable, log }, ctx)
      | .error failure => ({ answer := .refused failure }, ctx)
  | .tearDown =>
      let (objects, next) := ctx.tearDown
      ({ answer := .released objects, log := ctx.tearDownLog }, next)

def run (ctx : Context κ α) : List (Op κ α) → List (Outcome κ α) × Context κ α
  | [] => ([], ctx)
  | op :: rest =>
      let (outcome, ctx) := ctx.step op
      let (outcomes, ctx) := ctx.run rest
      (outcome :: outcomes, ctx)

end Context

end Lanewise
