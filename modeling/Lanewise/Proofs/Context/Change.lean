import Lanewise.Proofs.Context.Operations

namespace Lanewise

def Activity.allowedIn : Activity → Phase → Bool
  | .changingSettings, phase | .changingOptions, phase | .activating, phase =>
      phase = .configuring
  | .queryingTarget, phase | .allocatingObjects, phase => phase = .active
  | .silencingWarnings, phase | .selectingDumpStages, phase | .selectingSkippedStages, phase =>
      phase ≠ .tornDown

namespace Context

variable {κ α : Type}

def Op.activity? : Op κ α → Option Activity
  | .configure _ => some .changingSettings
  | .editSwitches _ => some .changingOptions
  | .activate _ => some .activating
  | .register _ _ => some .allocatingObjects
  | .silence _ _ => some .silencingWarnings
  | .dumpAfter _ => some .selectingDumpStages
  | .leaveOut _ => some .selectingSkippedStages
  | .reportPitfall _ _ _ => none
  | .markReported _ => some .queryingTarget
  | .askIntrinsic _ _ => some .queryingTarget
  | .tearDown => none

variable [DecidableEq κ] [Hashable κ] {ctx : Context κ α}

theorem step_forbidden {op : Op κ α} {activity : Activity} (asked : op.activity? = some activity)
    (forbidden : ¬activity.allowedIn ctx.phase) :
    ctx.step op = ({ answer := .refused (.wrongPhase activity ctx.phase) }, ctx) := by
  cases op <;> cases asked <;>
    simp only [Activity.allowedIn, decide_eq_true_eq, Decidable.not_not] at forbidden
  case configure edit => simp [step, configure_eq, forbidden, settleStep, refusal]
  case editSwitches edit => simp [step, editSwitches_eq, forbidden, settleStep, refusal]
  case activate request =>
    simp [step, activate_forbidden ctx forbidden, activationLog_forbidden ctx forbidden, settleStep,
      refusal]
  case register kind object => simp [step, register_eq, forbidden, refusal]
  case silence line file => simp [step, silence_eq, forbidden, settleStep, refusal]
  case dumpAfter stage =>
    simp [step, Context.dumpAfter, selectStage_eq, forbidden, settleStep, refusal]
  case leaveOut stage =>
    simp [step, Context.leaveOut, selectStage_eq, forbidden, settleStep, refusal]
  case markReported kinds =>
    simp [step, Context.markReported, activeTarget_forbidden ctx forbidden, settleStep, refusal,
      bind, Except.bind]
  case askIntrinsic name span =>
    simp [step, Context.askIntrinsic, activeTarget_forbidden ctx forbidden, refusal, bind,
      Except.bind]

def granted (ctx : Context κ α) (op : Op κ α) : List (κ × α) :=
  match op, (ctx.step op).1.answer with
  | .register kind object, .registered _ => [(kind, object)]
  | _, _ => []

def registrations (ctx : Context κ α) : List (Op κ α) → List (κ × α)
  | [] => []
  | op :: rest => ctx.granted op ++ registrations (ctx.step op).2 rest

def closed (ctx : Context κ α) : Context κ α :=
  { ctx with arena := ctx.arena.drain.2, target := none, toolkit := none, phase := .tornDown }

/-- All that an operation can do to a context. -/
inductive Change (ctx : Context κ α) : Op κ α → Context κ α → Prop
  | kept (op : Op κ α) (ungranted : ctx.granted op = [])
      (idle : op = .tearDown → ctx.phase = .tornDown) : Change ctx op ctx
  | configured (op : Op κ α) (settings : Settings) (opt : Switches)
      (ungranted : ctx.granted op = []) (running : op ≠ .tearDown)
      (phase : ctx.phase = .configuring) :
      Change ctx op { ctx with settings, opt }
  | activated (toolkit : Toolkit) (request : TargetRequest) (target : Target)
      (phase : ctx.phase = .configuring) (owned : ctx.toolkit = some toolkit)
      (created : Target.create ctx.host toolkit request = .ok target) :
      Change ctx (.activate request) (ctx.activated target)
  | registered (kind : κ) (object : α)
      (granted : ctx.granted (.register kind object) = [(kind, object)])
      (phase : ctx.phase = .active) :
      Change ctx (.register kind object)
        { ctx with arena := (ctx.arena.register kind object).2 }
  | noted (op : Op κ α) (silencedLines : SilencedLines) (dumpStages skipStages : List UInt32)
      (ungranted : ctx.granted op = []) (running : op ≠ .tearDown) (phase : ctx.phase ≠ .tornDown) :
      Change ctx op { ctx with silencedLines, dumpStages, skipStages }
  | reported (op : Op κ α) (target : Target) (kinds : Pitfalls) (ungranted : ctx.granted op = [])
      (running : op ≠ .tearDown) (owned : ctx.target = some target) (phase : ctx.phase = .active) :
      Change ctx op { ctx with target := some (target.markReported kinds) }
  | closed (phase : ctx.phase ≠ .tornDown) : Change ctx .tearDown ctx.closed

theorem change_settleStep {op : Op κ α} {log : List LogRecord}
    {outcome : Except ContextFault (Context κ α)} (ungranted : ctx.granted op = [])
    (running : op ≠ .tearDown) (succeeds : ∀ next, outcome = .ok next → ctx.Change op next) :
    ctx.Change op (ctx.settleStep log outcome).2 := by
  cases outcome with
  | error failure => exact .kept op ungranted fun ends => absurd ends running
  | ok next => exact succeeds next rfl

theorem change_activate (request : TargetRequest) {next : Context κ α}
    (done : ctx.activate request = .ok next) : ctx.Change (.activate request) next := by
  obtain ⟨phase, toolkit, target, owned, created, rfl⟩ := (activate_eq_ok ctx).1 done
  exact .activated toolkit request target phase owned created

theorem change_register (kind : κ) (object : α) :
    ctx.Change (.register kind object) (ctx.step (.register kind object)).2 := by
  by_cases phase : ctx.phase = .active
  · have taken : ctx.step (.register kind object) =
        ({ answer := .registered (ctx.arena.register kind object).1 },
          { ctx with arena := (ctx.arena.register kind object).2 }) := by
      simp [step, register_eq, phase]
    rw [taken]
    exact .registered kind object (by simp [granted, taken]) phase
  · have refused : ctx.step (.register kind object) =
        ({ answer := .refused (.wrongPhase .allocatingObjects ctx.phase) }, ctx) :=
      step_forbidden rfl (by simpa [Activity.allowedIn] using phase)
    rw [refused]
    exact .kept _ (by simp [granted, refused]) (by simp)

theorem change_markReported {op : Op κ α} {kinds : Pitfalls} {next : Context κ α}
    (ungranted : ctx.granted op = []) (running : op ≠ .tearDown)
    (done : ctx.markReported kinds = .ok next) : ctx.Change op next := by
  obtain ⟨phase, target, owned, rfl⟩ := (markReported_eq_ok ctx).1 done
  exact .reported op target kinds ungranted running owned phase

theorem step_change (ctx : Context κ α) (op : Op κ α) : ctx.Change op (ctx.step op).2 := by
  cases op with
  | configure edit =>
      refine change_settleStep rfl (by simp) fun next done => ?_
      rw [configure_eq] at done
      split at done <;> cases done
      exact .configured _ _ _ rfl (by simp) ‹_›
  | editSwitches edit =>
      refine change_settleStep rfl (by simp) fun next done => ?_
      rw [editSwitches_eq] at done
      split at done <;> cases done
      exact .configured _ _ _ rfl (by simp) ‹_›
  | activate request => exact change_settleStep rfl (by simp) fun _ => change_activate request
  | register kind object => exact change_register kind object
  | silence line file =>
      refine change_settleStep rfl (by simp) fun next done => ?_
      rw [silence_eq] at done
      split at done <;> cases done
      exact .noted _ _ _ _ rfl (by simp) ‹_›
  | dumpAfter stage =>
      refine change_settleStep rfl (by simp) fun next done => ?_
      obtain ⟨running, -, rfl⟩ := (selectStage_eq_ok ctx).1 done
      exact .noted _ _ _ _ rfl (by simp) running
  | leaveOut stage =>
      refine change_settleStep rfl (by simp) fun next done => ?_
      obtain ⟨running, -, rfl⟩ := (selectStage_eq_ok ctx).1 done
      exact .noted _ _ _ _ rfl (by simp) running
  | reportPitfall kinds span message =>
      have next : (ctx.step (.reportPitfall kinds span message)).2 =
          (ctx.reportPitfall kinds span).2 := rfl
      rw [next]
      rcases ctx.reportPitfall_snd kinds span with same | marked
      · rw [same]
        exact .kept _ rfl (by simp)
      · exact change_markReported rfl (by simp) marked
  | markReported kinds =>
      exact change_settleStep rfl (by simp) fun _ => change_markReported rfl (by simp)
  | askIntrinsic name span =>
      have next : (ctx.step (.askIntrinsic name span)).2 = ctx := by
        simp only [step]
        split <;> rfl
      rw [next]
      exact .kept _ rfl (by simp)
  | tearDown =>
      by_cases shut : ctx.phase = .tornDown
      · have next : (ctx.step .tearDown).2 = ctx := by simp [step, Context.tearDown, shut]
        rw [next]
        exact .kept _ rfl fun _ => shut
      · have next : (ctx.step .tearDown).2 = ctx.closed := by
          simp [step, Context.tearDown, shut, closed]
        rw [next]
        exact .closed shut

theorem run_cons (ctx : Context κ α) (op : Op κ α) (ops : List (Op κ α)) :
    (ctx.run (op :: ops)).2 = ((ctx.step op).2.run ops).2 := rfl

theorem run_of_change (kept : Context κ α → Prop)
    (changes : ∀ ctx next op, ctx.Change op next → kept ctx → kept next) (ops : List (Op κ α))
    (start : kept ctx) : kept (ctx.run ops).2 := by
  induction ops generalizing ctx with
  | nil => exact start
  | cons op ops ih => exact ih (changes ctx _ op (ctx.step_change op) start)

end Context

end Lanewise
