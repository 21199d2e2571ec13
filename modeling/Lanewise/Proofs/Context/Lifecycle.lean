import Lanewise.Proofs.Arena.Contents
import Lanewise.Proofs.Context.Change
import Lanewise.Proofs.Target.Construction

namespace Lanewise

inductive Phase.Precedes : Phase → Phase → Prop
  | activation : Precedes .configuring .active
  | completion : Precedes .active .tornDown
  | abandonment : Precedes .configuring .tornDown

namespace Context

variable {κ α : Type} [DecidableEq κ] [Hashable κ] {ctx next : Context κ α} {op : Op κ α}
  {objects : List (κ × α)}

/-! ## Phases -/

theorem Change.phase (change : ctx.Change op next) :
    next.phase = ctx.phase ∨ ctx.phase.Precedes next.phase := by
  cases change with
  | activated toolkit request target phase => exact .inr (phase ▸ .activation)
  | closed phase =>
      right
      cases before : ctx.phase with
      | configuring => exact .abandonment
      | active => exact .completion
      | tornDown => exact absurd before phase
  | _ => exact .inl rfl

theorem Change.configuring (change : ctx.Change op next) (idle : next.phase = .configuring) :
    ctx.phase = .configuring := by
  rcases change.phase with same | precedes
  · exact same ▸ idle
  · generalize ctx.phase = before at precedes
    rw [idle] at precedes
    cases precedes

theorem Change.tornDown_iff (change : ctx.Change op next) :
    next.phase = .tornDown ↔ ctx.phase = .tornDown ∨ op = .tearDown := by
  cases change with
  | kept _ _ idle => exact ⟨.inl, fun ends => ends.elim id idle⟩
  | configured _ _ _ _ running phase => simp [running]
  | activated _ _ _ phase => simp [Context.activated, phase]
  | registered kind object _ phase => simp
  | noted _ _ _ _ _ running phase => simp [running]
  | reported _ _ _ _ running => simp [running]
  | closed => simp [Context.closed]

theorem Change.frozen (change : ctx.Change op next) (started : ctx.phase ≠ .configuring) :
    next.opt = ctx.opt ∧ next.settings = ctx.settings ∧ next.phase ≠ .configuring := by
  cases change with
  | configured _ _ _ _ _ phase => exact absurd phase started
  | activated _ _ _ phase => exact absurd phase started
  | closed => exact ⟨rfl, rfl, by simp [Context.closed]⟩
  | _ => exact ⟨rfl, rfl, started⟩

theorem frozen_run (started : ctx.phase ≠ .configuring) (ops : List (Op κ α)) :
    (ctx.run ops).2.opt = ctx.opt ∧ (ctx.run ops).2.settings = ctx.settings := by
  have frozen := run_of_change
    (fun next => next.opt = ctx.opt ∧ next.settings = ctx.settings ∧ next.phase ≠ .configuring)
    (fun before next op change same => ?_) ops ⟨rfl, rfl, started⟩
  · exact ⟨frozen.1, frozen.2.1⟩
  · obtain ⟨opt, settings, going⟩ := same
    obtain ⟨opt', settings', still⟩ := change.frozen going
    exact ⟨opt'.trans opt, settings'.trans settings, still⟩

theorem tornDown_run_iff (ctx : Context κ α) (ops : List (Op κ α)) :
    (ctx.run ops).2.phase = .tornDown ↔ ctx.phase = .tornDown ∨ .tearDown ∈ ops := by
  induction ops generalizing ctx with
  | nil => simp [run]
  | cons op ops ih =>
      rw [run_cons, ih, (ctx.step_change op).tornDown_iff, List.mem_cons, or_assoc,
        eq_comm (a := op)]

/-! ## The invariant -/

structure Coherent (ctx : Context κ α) (objects : List (κ × α)) : Prop where
  target_isSome : ctx.target.isSome ↔ ctx.phase = .active
  target_valid : ∀ target, ctx.target = some target →
    target.isValid ∧ ctx.settings.callingConv ≠ .uninitialized
  toolkit_isSome : ctx.toolkit.isSome ↔ ctx.phase ≠ .tornDown
  holds : ctx.arena.Holds objects
  idle : ctx.phase ≠ .active → objects = []

theorem coherent_new (host : Host) (toolkit : Toolkit) :
    (new host toolkit : Context κ α).Coherent [] where
  target_isSome := by simp [new]
  target_valid := by simp [new]
  toolkit_isSome := by simp [new]
  holds := Arena.holds_empty 0
  idle _ := rfl

theorem settle_callingConv (settings : Settings) (target : Target) :
    (settle settings target).callingConv ≠ .uninitialized := by
  unfold settle
  split
  · unfold Target.callingConv
    split <;> simp
  · assumption

def Op.leaves (op : Op κ α) (objects : List (κ × α)) : List (κ × α) :=
  match op with
  | .tearDown => []
  | _ => objects

theorem leaves_eq (running : op ≠ .tearDown) (ungranted : ctx.granted op = []) :
    op.leaves (objects ++ ctx.granted op) = objects := by
  rw [ungranted, List.append_nil]
  cases op with
  | tearDown => exact absurd rfl running
  | _ => rfl

theorem Coherent.change (coherent : ctx.Coherent objects) (change : ctx.Change op next) :
    next.Coherent (op.leaves (objects ++ ctx.granted op)) := by
  obtain ⟨target_isSome, target_valid, toolkit_isSome, holds, idle⟩ := coherent
  cases change with
  | kept _ ungranted ends =>
      by_cases running : op = .tearDown
      · have nothing := idle (by simp [ends running])
        subst running
        exact ⟨target_isSome, target_valid, toolkit_isSome, nothing ▸ holds, fun _ => rfl⟩
      · rw [leaves_eq running ungranted]
        exact ⟨target_isSome, target_valid, toolkit_isSome, holds, idle⟩
  | configured _ settings opt ungranted running phase =>
      rw [leaves_eq running ungranted]
      refine ⟨target_isSome, ?_, toolkit_isSome, holds, idle⟩
      intro target owned
      have active := target_isSome.1 (Option.isSome_of_eq_some owned)
      rw [phase] at active
      cases active
  | activated toolkit request target phase owned created =>
      have nothing := idle (by simp [phase])
      refine ⟨by simp [Context.activated], ?_, by simp [Context.activated, owned], ?_,
        by simp [Context.activated]⟩
      · intro other same
        cases same
        obtain ⟨valid, rfl⟩ := Target.create_eq_ok.1 created
        exact ⟨valid, settle_callingConv _ _⟩
      · exact nothing ▸ holds
  | registered kind object granted phase =>
      rw [granted]
      refine ⟨target_isSome, target_valid, toolkit_isSome, holds.register kind object, ?_⟩
      exact fun idle => absurd phase idle
  | noted _ _ _ _ ungranted running =>
      rw [leaves_eq running ungranted]
      exact ⟨target_isSome, target_valid, toolkit_isSome, holds, idle⟩
  | reported _ target kinds ungranted running owned phase =>
      rw [leaves_eq running ungranted]
      refine ⟨by simp [phase], ?_, toolkit_isSome, holds, idle⟩
      intro other same
      cases same
      exact target_valid target owned
  | closed =>
      exact ⟨by simp [Context.closed], by simp [Context.closed], by simp [Context.closed],
        Arena.holds_empty _, fun _ => rfl⟩

theorem Coherent.run (coherent : ctx.Coherent objects) (ops : List (Op κ α)) :
    ∃ left, (ctx.run ops).2.Coherent left := by
  refine run_of_change (fun ctx => ∃ left, ctx.Coherent left) ?_ ops ⟨objects, coherent⟩
  intro ctx next op change holds
  obtain ⟨owned, coherent⟩ := holds
  exact ⟨_, coherent.change change⟩

/-- Until it is torn down a context owns every object that was registered. -/
theorem Coherent.run_open (coherent : ctx.Coherent objects) (ops : List (Op κ α))
    (running : .tearDown ∉ ops) :
    (ctx.run ops).2.Coherent (objects ++ ctx.registrations ops) := by
  induction ops generalizing ctx objects with
  | nil => simpa [registrations, Context.run] using coherent
  | cons op ops ih =>
      rw [List.mem_cons, not_or] at running
      have next := coherent.change (ctx.step_change op)
      have kept : op.leaves (objects ++ ctx.granted op) = objects ++ ctx.granted op := by
        cases op with
        | tearDown => exact absurd rfl running.1
        | _ => rfl
      rw [kept] at next
      have later := ih next running.2
      rwa [List.append_assoc] at later

/-! ## Refusals -/

theorem Coherent.not_wrongPhase (coherent : ctx.Coherent objects) {activity : Activity}
    (asked : op.activity? = some activity) (allowed : activity.allowedIn ctx.phase)
    (other : Activity) (phase : Phase) :
    (ctx.step op).1.answer ≠ .refused (.wrongPhase other phase) := by
  cases op <;> cases asked <;> simp only [Activity.allowedIn, decide_eq_true_eq] at allowed
  case configure edit => simp [step, configure_eq, allowed, settleStep]
  case editSwitches edit => simp [step, editSwitches_eq, allowed, settleStep]
  case activate request =>
    obtain ⟨toolkit, owned⟩ := Option.isSome_iff_exists.1
      (coherent.toolkit_isSome.2 (by simp [allowed]))
    cases created : Target.create ctx.host toolkit request <;>
      simp [step, activate_eq ctx owned, allowed, created, settleStep]
  case register kind object => simp [step, register_eq, allowed]
  case silence line file => simp [step, silence_eq, allowed, settleStep]
  case dumpAfter stage =>
    by_cases inside : stage ≤ Stage.last <;>
      simp [step, Context.dumpAfter, selectStage_eq, allowed, inside, settleStep]
  case leaveOut stage =>
    by_cases inside : stage ≤ Stage.last <;>
      simp [step, Context.leaveOut, selectStage_eq, allowed, inside, settleStep]
  case markReported kinds =>
    obtain ⟨target, owned⟩ := Option.isSome_iff_exists.1 (coherent.target_isSome.2 allowed)
    have done : ctx.markReported kinds =
        .ok { ctx with target := some (target.markReported kinds) } :=
      (markReported_eq_ok ctx).2 ⟨allowed, target, owned, rfl⟩
    simp [step, done, settleStep]
  case askIntrinsic name span =>
    obtain ⟨target, owned⟩ := Option.isSome_iff_exists.1 (coherent.target_isSome.2 allowed)
    have found := (activeTarget_eq_ok ctx).2 ⟨allowed, owned⟩
    simp [step, Context.askIntrinsic, found, bind, Except.bind, pure, Except.pure]

theorem Coherent.forbidden_of_wrongPhase (coherent : ctx.Coherent objects) {activity : Activity}
    {phase : Phase} (refused : (ctx.step op).1.answer = .refused (.wrongPhase activity phase)) :
    op.activity? = some activity ∧ ¬activity.allowedIn ctx.phase ∧ phase = ctx.phase := by
  cases asked : op.activity? with
  | none => cases op <;> cases asked <;> simp [step] at refused
  | some needed =>
      by_cases allowed : needed.allowedIn ctx.phase
      · exact absurd refused (coherent.not_wrongPhase asked allowed activity phase)
      · rw [step_forbidden asked allowed] at refused
        cases refused
        exact ⟨rfl, allowed, rfl⟩

/-! ## The end -/

theorem step_tearDown (running : ctx.phase ≠ .tornDown) :
    (ctx.step .tearDown).1.answer = .released ctx.arena.contents := by
  simp [step, Context.tearDown, running, Arena.drain]

theorem step_tearDown_again (ended : ctx.phase = .tornDown) :
    ctx.step .tearDown = ({ answer := .released [] }, ctx) := by
  simp [step, Context.tearDown, tearDownLog, ended]

theorem lifecycle (host : Host) (toolkit : Toolkit) (ops : List (Op κ α)) :
    let start : Context κ α := new host toolkit
    let ctx := (start.run ops).2
    (ctx.target.isSome ↔ ctx.phase = .active) ∧
    (∀ target, ctx.target = some target →
      target.isValid ∧ ctx.settings.callingConv ≠ .uninitialized) ∧
    (ctx.toolkit.isSome ↔ ctx.phase ≠ .tornDown) ∧
    (¬ctx.arena.isEmpty → ctx.phase = .active) ∧
    (∀ op, (ctx.step op).2.phase = ctx.phase ∨ ctx.phase.Precedes (ctx.step op).2.phase) ∧
    (ctx.phase ≠ .configuring → ∀ later,
      (ctx.run later).2.opt = ctx.opt ∧ (ctx.run later).2.settings = ctx.settings) ∧
    (∀ op activity, op.activity? = some activity → ¬activity.allowedIn ctx.phase →
      ctx.step op = ({ answer := .refused (.wrongPhase activity ctx.phase) }, ctx)) ∧
    (∀ op activity phase, (ctx.step op).1.answer = .refused (.wrongPhase activity phase) →
      op.activity? = some activity ∧ ¬activity.allowedIn ctx.phase ∧ phase = ctx.phase) ∧
    (.tearDown ∉ ops → ctx.phase ≠ .tornDown ∧ ∃ objects,
      (ctx.step .tearDown).1.answer = .released objects ∧
        objects.Perm (start.registrations ops) ∧ objects.length = ctx.arena.total) ∧
    (.tearDown ∈ ops → ctx.phase = .tornDown ∧
      ctx.step .tearDown = ({ answer := .released [] }, ctx)) := by
  intro start ctx
  have fresh : start.Coherent [] := coherent_new host toolkit
  have ends : ctx.phase = .tornDown ↔ .tearDown ∈ ops := by
    rw [tornDown_run_iff]
    exact or_iff_right (by simp [start, new])
  obtain ⟨objects, coherent⟩ := fresh.run ops
  refine ⟨coherent.target_isSome, coherent.target_valid, coherent.toolkit_isSome, ?_,
    fun op => (ctx.step_change op).phase, fun started later => frozen_run started later,
    fun op activity => step_forbidden, fun op activity phase => coherent.forbidden_of_wrongPhase,
    ?_, fun ended => ⟨ends.2 ended, step_tearDown_again (ends.2 ended)⟩⟩
  · intro filled
    by_contra idle
    exact filled (coherent.holds.isEmpty_iff.2 (coherent.idle idle))
  · intro running
    have opened : ctx.phase ≠ .tornDown := fun ended => running (ends.1 ended)
    have holds := (fresh.run_open ops running).holds
    refine ⟨opened, _, step_tearDown opened, ?_, ?_⟩
    · rw [holds.contents]
      exact Arena.byKind_perm _
    · rw [holds.contents, holds.total, (Arena.byKind_perm _).length_eq]

end Context

end Lanewise
