import Lanewise.Context
import Lanewise.Proofs.Except

namespace Lanewise

namespace Context

variable {κ α : Type} [DecidableEq κ] [Hashable κ] (ctx : Context κ α)

theorem requirePhase_eq (phase : Phase) (activity : Activity) :
    ctx.requirePhase phase activity =
      if ctx.phase = phase then .ok () else .error (ctx.refusal activity) := by
  simp [requirePhase, require]

theorem requireOpen_eq (activity : Activity) :
    ctx.requireOpen activity =
      if ctx.phase = .tornDown then .error (ctx.refusal activity) else .ok () := by
  simp [requireOpen, require]

theorem requireStage_eq (stage : UInt32) :
    requireStage stage =
      if stage ≤ Stage.last then .ok () else .error (.stageOutOfRange stage) := by
  have low : Stage.first ≤ stage := UInt32.zero_le
  simp [requireStage, require, low]

theorem configure_eq (edit : Settings → Settings) :
    ctx.configure edit =
      if ctx.phase = .configuring then .ok { ctx with settings := edit ctx.settings }
      else .error (ctx.refusal .changingSettings) := by
  rw [Context.configure, requirePhase_eq]
  split <;> rfl

theorem editSwitches_eq (edit : Switches → Switches) :
    ctx.editSwitches edit =
      if ctx.phase = .configuring then .ok { ctx with opt := edit ctx.opt }
      else .error (ctx.refusal .changingOptions) := by
  rw [Context.editSwitches, requirePhase_eq]
  split <;> rfl

def activated (target : Target) : Context κ α :=
  { ctx with settings := settle ctx.settings target, phase := .active, target := some target }

theorem activate_eq {toolkit : Toolkit} (owned : ctx.toolkit = some toolkit)
    (request : TargetRequest) :
    ctx.activate request =
      if ctx.phase = .configuring then
        match Target.create ctx.host toolkit request with
        | .ok target => .ok (ctx.activated target)
        | .error cause => .error (.invalidTarget request.target cause)
      else .error (ctx.refusal .activating) := by
  rw [Context.activate, requirePhase_eq]
  split
  · cases created : Target.create ctx.host toolkit request <;>
      simp [owned, created, orFail, activated, bind, Except.bind, pure, Except.pure]
  · rfl

theorem activate_eq_ok {request : TargetRequest} {next : Context κ α} :
    ctx.activate request = .ok next ↔ ctx.phase = .configuring ∧
      ∃ toolkit target, ctx.toolkit = some toolkit ∧
        Target.create ctx.host toolkit request = .ok target ∧ next = ctx.activated target := by
  simp only [Context.activate, bind_eq_ok, requirePhase, require_eq_ok, decide_eq_true_eq,
    orFail_eq_ok, mapError_eq_ok, pure_eq_ok]
  constructor
  · rintro ⟨_, phase, toolkit, owned, target, created, rfl⟩
    exact ⟨phase, toolkit, target, owned, created, rfl⟩
  · rintro ⟨phase, toolkit, target, owned, created, rfl⟩
    exact ⟨(), phase, toolkit, owned, target, created, rfl⟩

theorem activate_of_fails {toolkit : Toolkit} {request : TargetRequest} {failure : TargetFault}
    (phase : ctx.phase = .configuring) (owned : ctx.toolkit = some toolkit)
    (fails : Target.create ctx.host toolkit request = .error failure) :
    ctx.activate request = .error (.invalidTarget request.target failure) := by
  rw [activate_eq ctx owned, if_pos phase, fails]

theorem activate_forbidden (forbidden : ctx.phase ≠ .configuring) (request : TargetRequest) :
    ctx.activate request = .error (ctx.refusal .activating) := by
  rw [Context.activate, requirePhase_eq, if_neg forbidden]
  rfl

theorem activationLog_forbidden (forbidden : ctx.phase ≠ .configuring) (request : TargetRequest) :
    ctx.activationLog request = [] := by
  unfold activationLog
  cases phase : ctx.phase with
  | configuring => exact absurd phase forbidden
  | active => rfl
  | tornDown => rfl

theorem activeTarget_eq :
    ctx.activeTarget =
      if ctx.phase = .active then orFail (ctx.refusal .queryingTarget) ctx.target
      else .error (ctx.refusal .queryingTarget) := by
  rw [Context.activeTarget, requirePhase_eq]
  split <;> rfl

theorem register_eq (kind : κ) (object : α) :
    ctx.register kind object =
      if ctx.phase = .active then
        .ok ((ctx.arena.register kind object).1,
          { ctx with arena := (ctx.arena.register kind object).2 })
      else .error (ctx.refusal .allocatingObjects) := by
  rw [Context.register, Context.activeArena, requirePhase_eq]
  split <;> rfl

theorem activeTarget_forbidden (forbidden : ctx.phase ≠ .active) :
    ctx.activeTarget = .error (ctx.refusal .queryingTarget) := by
  rw [activeTarget_eq, if_neg forbidden]

theorem activeTarget_eq_ok {target : Target} :
    ctx.activeTarget = .ok target ↔ ctx.phase = .active ∧ ctx.target = some target := by
  rw [activeTarget_eq]
  split <;> simp_all [orFail_eq_ok]

theorem markReported_eq_ok {kinds : Pitfalls} {next : Context κ α} :
    ctx.markReported kinds = .ok next ↔ ctx.phase = .active ∧
      ∃ target, ctx.target = some target ∧
        next = { ctx with target := some (target.markReported kinds) } := by
  simp only [Context.markReported, bind_eq_ok, activeTarget_eq_ok, pure_eq_ok]
  constructor
  · rintro ⟨target, ⟨active, owned⟩, rfl⟩
    exact ⟨active, target, owned, rfl⟩
  · rintro ⟨active, target, owned, rfl⟩
    exact ⟨target, ⟨active, owned⟩, rfl⟩

theorem reportPitfall_snd (kinds : Pitfalls) (span : Span) :
    (ctx.reportPitfall kinds span).2 = ctx ∨
      ctx.markReported kinds = .ok (ctx.reportPitfall kinds span).2 := by
  cases found : ctx.activeTarget with
  | error failure => exact .inl (by simp [reportPitfall, found])
  | ok target =>
      obtain ⟨active, owned⟩ := (activeTarget_eq_ok ctx).1 found
      by_cases loud : ctx.reportsAt span
      · by_cases matters : target.matters kinds
        · refine .inr ((markReported_eq_ok ctx).2 ⟨active, target, owned, ?_⟩)
          simp [reportPitfall, found, loud, Target.claimReport, matters]
        · refine .inl ?_
          simp [reportPitfall, found, loud, Target.claimReport, matters, ← owned]
      · exact .inl (by simp [reportPitfall, found, loud])

theorem silence_eq (line : UInt32) (file : String) :
    ctx.silence line file =
      if ctx.phase = .tornDown then .error (ctx.refusal .silencingWarnings)
      else .ok { ctx with silencedLines := ctx.silencedLines.insert line file } := by
  rw [Context.silence, requireOpen_eq]
  split <;> rfl

theorem selectStage_eq (activity : Activity) (stage : UInt32) (selected : Context κ α) :
    ctx.selectStage activity stage selected =
      if ctx.phase = .tornDown then .error (ctx.refusal activity)
      else if stage ≤ Stage.last then .ok selected
      else .error (.stageOutOfRange stage) := by
  rw [Context.selectStage, requireOpen_eq, requireStage_eq]
  split
  · rfl
  · split <;> rfl

theorem selectStage_eq_ok {activity : Activity} {stage : UInt32} {selected next : Context κ α} :
    ctx.selectStage activity stage selected = .ok next ↔
      ctx.phase ≠ .tornDown ∧ stage ≤ Stage.last ∧ selected = next := by
  rw [selectStage_eq]
  split
  · simp [*]
  · split <;> simp [*]

end Context

end Lanewise
