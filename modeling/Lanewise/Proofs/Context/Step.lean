import Lanewise.Proofs.Context.Change

namespace Lanewise

namespace Context

variable {κ α : Type} [DecidableEq κ] [Hashable κ] {ctx : Context κ α}

theorem settleStep_snd (log : List LogRecord) (outcome : Except ContextFault (Context κ α)) :
    (ctx.settleStep log outcome).2 = outcome.toOption.getD ctx := by
  cases outcome <;> rfl

theorem selectStage_getD (activity : Activity) (stage : UInt32) (selected : Context κ α) :
    (ctx.selectStage activity stage selected).toOption.getD ctx =
      if ctx.phase = .tornDown then ctx
      else if stage ≤ Stage.last then selected
      else ctx := by
  rw [selectStage_eq]
  split
  · rfl
  · split <;> rfl

theorem step_next (ctx : Context κ α) (op : Op κ α) :
    (ctx.step op).2 = match op with
      | .configure edit =>
          if ctx.phase = .configuring then { ctx with settings := edit ctx.settings } else ctx
      | .editSwitches edit =>
          if ctx.phase = .configuring then { ctx with opt := edit ctx.opt } else ctx
      | .activate request => (ctx.activate request).toOption.getD ctx
      | .register kind object =>
          if ctx.phase = .active then { ctx with arena := (ctx.arena.register kind object).2 }
          else ctx
      | .silence line file =>
          if ctx.phase = .tornDown then ctx
          else { ctx with silencedLines := ctx.silencedLines.insert line file }
      | .dumpAfter stage =>
          if ctx.phase = .tornDown then ctx
          else if stage ≤ Stage.last then
            { ctx with dumpStages := Stage.insert stage ctx.dumpStages }
          else ctx
      | .leaveOut stage =>
          if ctx.phase = .tornDown then ctx
          else if stage ≤ Stage.last then
            { ctx with skipStages := Stage.insert stage ctx.skipStages }
          else ctx
      | .reportPitfall kinds span _ => (ctx.reportPitfall kinds span).2
      | .markReported kinds => (ctx.markReported kinds).toOption.getD ctx
      | .askIntrinsic _ _ => ctx
      | .tearDown => if ctx.phase = .tornDown then ctx else ctx.closed := by
  cases op with
  | configure edit =>
      rw [step, settleStep_snd, configure_eq]
      split <;> rfl
  | editSwitches edit =>
      rw [step, settleStep_snd, editSwitches_eq]
      split <;> rfl
  | activate request => exact settleStep_snd _ _
  | register kind object =>
      rw [step, register_eq]
      by_cases active : ctx.phase = .active <;> simp only [active, if_true, if_false]
  | silence line file =>
      rw [step, settleStep_snd, silence_eq]
      split <;> rfl
  | dumpAfter stage => exact (settleStep_snd _ _).trans (selectStage_getD _ stage _)
  | leaveOut stage => exact (settleStep_snd _ _).trans (selectStage_getD _ stage _)
  | reportPitfall kinds span message => rfl
  | markReported kinds => exact settleStep_snd _ _
  | askIntrinsic name span =>
      simp only [step]
      split <;> rfl
  | tearDown =>
      by_cases ended : ctx.phase = .tornDown <;> simp [step, Context.tearDown, ended, closed]

def Op.touchesTarget : Op κ α → Bool
  | .activate _ | .reportPitfall _ _ _ | .markReported _ | .tearDown => true
  | _ => false

theorem step_target {op : Op κ α} (still : op.touchesTarget = false) :
    (ctx.step op).2.target = ctx.target := by
  rw [step_next]
  cases op <;> cases still <;> dsimp only <;> (repeat' split) <;> rfl

end Context

end Lanewise
