import Lanewise.Proofs.Context.Lifecycle
import Lanewise.Proofs.Context.Selections
import Lanewise.Proofs.Context.Step
import Lanewise.Proofs.Target.Reports
import Lanewise.Toolkit.Builtin

namespace Lanewise

namespace Context

variable {κ α : Type} [DecidableEq κ] [Hashable κ] {ctx next : Context κ α} {op : Op κ α}
  {sets : List Pitfalls} {target : Target}

def reported (ctx : Context κ α) (op : Op κ α) : List Pitfalls :=
  match op, (ctx.step op).1.answer with
  | .reportPitfall kinds _ _, .warned true => [kinds]
  | _, _ => []

def reports (ctx : Context κ α) : List (Op κ α) → List Pitfalls
  | [] => []
  | op :: rest => ctx.reported op ++ reports (ctx.step op).2 rest

theorem reportPitfall_forbidden (forbidden : ctx.phase ≠ .active) (kinds : Pitfalls) (span : Span) :
    ctx.reportPitfall kinds span = (false, ctx) := by
  rw [reportPitfall, activeTarget_forbidden ctx forbidden]

theorem reportPitfall_eq (active : ctx.phase = .active) (owned : ctx.target = some target)
    (named : target.reported ⊆ .kindMask) (kinds : Pitfalls) (span : Span) :
    ctx.reportPitfall kinds span =
      if ctx.reportsAt span ∧ kinds ⊆ target.relevantPitfalls ∧ ¬kinds ⊆ target.reported then
        (true, { ctx with target := some (target.markReported kinds) })
      else (false, ctx) := by
  rw [reportPitfall, (activeTarget_eq_ok ctx).2 ⟨active, owned⟩]
  by_cases heard : ctx.reportsAt span
  · by_cases fresh : kinds ⊆ target.relevantPitfalls ∧ ¬kinds ⊆ target.reported
    · simp [heard, fresh, Target.claimReport_eq named]
    · simp [heard, fresh, Target.claimReport_eq named, ← owned]
  · simp [heard]

theorem reported_reportPitfall (ctx : Context κ α) (kinds : Pitfalls) (span : Span)
    (message : String) :
    ctx.reported (.reportPitfall kinds span message) =
      if (ctx.reportPitfall kinds span).1 then [kinds] else [] := by
  simp only [reported, step]
  cases (ctx.reportPitfall kinds span).1 <;> rfl

theorem reported_eq_nil (other : ∀ kinds span message, op ≠ .reportPitfall kinds span message) :
    ctx.reported op = [] := by
  cases op with
  | reportPitfall kinds span message => exact absurd rfl (other kinds span message)
  | _ => rfl

theorem reported_forbidden (forbidden : ctx.phase ≠ .active) : ctx.reported op = [] := by
  cases op with
  | reportPitfall kinds span message =>
      rw [reported_reportPitfall, reportPitfall_forbidden forbidden]
      rfl
  | _ => rfl

structure Recorded (ctx : Context κ α) (sets : List Pitfalls) : Prop where
  idle : ctx.phase = .configuring → sets = []
  target : ∀ target, ctx.target = some target → target.Recorded sets

theorem recorded_new (host : Host) (toolkit : Toolkit) :
    (new host toolkit : Context κ α).Recorded [] where
  idle _ := rfl
  target := by simp [new]

theorem Recorded.step_idle (recorded : ctx.Recorded sets) (op : Op κ α)
    (idle : (ctx.step op).2.phase = .configuring) : sets ++ ctx.reported op = [] := by
  have before := (ctx.step_change op).configuring idle
  rw [recorded.idle before, reported_forbidden (by simp [before]), List.append_nil]

theorem Recorded.step_activate (recorded : ctx.Recorded sets) (request : TargetRequest)
    (owned : ((ctx.activate request).toOption.getD ctx).target = some target) :
    target.Recorded sets := by
  cases done : ctx.activate request with
  | error failure =>
      rw [done] at owned
      exact recorded.target target owned
  | ok next =>
      obtain ⟨phase, toolkit, built, _, created, rfl⟩ := (activate_eq_ok ctx).1 done
      rw [done] at owned
      cases owned
      obtain ⟨_, rfl⟩ := Target.create_eq_ok.1 created
      -- Nothing was reported before there was a target.
      rw [recorded.idle phase]
      exact Target.recorded_build _ _ _

theorem Recorded.step_reportPitfall (recorded : ctx.Recorded sets) (kinds : Pitfalls) (span : Span)
    (message : String) (owned : (ctx.reportPitfall kinds span).2.target = some target) :
    target.Recorded (sets ++ ctx.reported (.reportPitfall kinds span message)) := by
  rw [reported_reportPitfall]
  cases found : ctx.activeTarget with
  | error failure =>
      simp only [reportPitfall, found] at owned ⊢
      simpa using recorded.target target owned
  | ok before =>
      obtain ⟨active, before_owned⟩ := (activeTarget_eq_ok ctx).1 found
      have before_recorded := recorded.target before before_owned
      rw [reportPitfall_eq active before_owned before_recorded.named] at owned ⊢
      split at owned
      · rename_i fires
        cases owned
        simpa [fires] using before_recorded.markReported fires.2.1
      · rename_i silent
        simpa [silent] using recorded.target target owned

theorem Recorded.step (recorded : ctx.Recorded sets)
    (unmarked : ∀ kinds, op ≠ .markReported kinds) :
    (ctx.step op).2.Recorded (sets ++ ctx.reported op) where
  idle := recorded.step_idle op
  target := by
    intro target owned
    cases op with
    | activate request =>
        rw [reported_eq_nil (by simp), List.append_nil]
        rw [step_next] at owned
        exact recorded.step_activate request owned
    | reportPitfall kinds span message =>
        exact recorded.step_reportPitfall kinds span message owned
    | markReported kinds => exact absurd rfl (unmarked kinds)
    | tearDown =>
        rw [reported_eq_nil (by simp), List.append_nil]
        rw [step_next] at owned
        dsimp only at owned
        split at owned
        · exact recorded.target target owned
        · cases owned
    | _ =>
        rw [step_target rfl] at owned
        rw [reported_eq_nil (by simp), List.append_nil]
        exact recorded.target target owned

theorem Recorded.run (recorded : ctx.Recorded sets) {ops : List (Op κ α)}
    (unmarked : ∀ kinds, .markReported kinds ∉ ops) :
    (ctx.run ops).2.Recorded (sets ++ ctx.reports ops) := by
  induction ops generalizing ctx sets with
  | nil => simpa [reports, Context.run] using recorded
  | cons op ops ih =>
      simp only [List.mem_cons, not_or, forall_and] at unmarked
      have later := ih (recorded.step fun kinds same => unmarked.1 kinds same.symm) unmarked.2
      rwa [List.append_assoc] at later

theorem accepts_silence_iff {ops : List (Op κ α)} (running : (ctx.run ops).2.phase ≠ .tornDown)
    (line : UInt32) (file : String) :
    ctx.Accepts ops (.silence line file) ↔ .silence line file ∈ ops := by
  constructor
  · rintro ⟨earlier, later, rfl, -⟩
    simp
  · intro member
    obtain ⟨earlier, later, rfl⟩ := List.append_of_mem member
    have opened : (ctx.run earlier).2.phase ≠ .tornDown := by
      rw [Ne, tornDown_run_iff, List.mem_append, ← or_assoc, not_or, ← tornDown_run_iff] at running
      exact running.1
    exact ⟨earlier, later, rfl, by rw [answer_silence, if_neg opened]⟩

theorem silences_run_iff {ops : List (Op κ α)} (running : (ctx.run ops).2.phase ≠ .tornDown)
    (line : UInt32) (file : String) :
    (ctx.run ops).2.silencedLines.contains line file ↔
      ctx.silencedLines.contains line file ∨ .silence line file ∈ ops := by
  simp only [SilencedLines.contains, List.contains_iff_mem, ← accepts_silence_iff running]
  exact collects_silencedLines.mem_run_iff

theorem reportsAt_run_iff {ops : List (Op κ α)} (fresh : ctx.silencedLines = .empty)
    (running : (ctx.run ops).2.phase ≠ .tornDown) (span : Span) :
    (ctx.run ops).2.reportsAt span ↔ (ctx.run ops).2.settings.emitPerfWarnings ∧
      ¬(ctx.run ops).2.settings.disableWarnings ∧
      .silence span.first.line span.file ∉ ops := by
  have silenced : (ctx.run ops).2.silencedLines.covers span ↔
      .silence span.first.line span.file ∈ ops :=
    (silences_run_iff running span.first.line span.file).trans
      (or_iff_right (by simp [fresh, SilencedLines.empty, SilencedLines.contains]))
  simp [reportsAt, silences, ← silenced]

theorem Recorded.reportPitfall_iff (recorded : ctx.Recorded sets) (kinds : Pitfalls) (span : Span) :
    (ctx.reportPitfall kinds span).1 ↔ ctx.phase = .active ∧ ctx.reportsAt span ∧
      (∃ target, ctx.target = some target ∧ kinds ⊆ target.relevantPitfalls) ∧
      ¬kinds ⊆ .unionOf sets := by
  cases found : ctx.activeTarget with
  | error failure =>
      simp only [reportPitfall, found, Bool.false_eq_true, false_iff]
      rintro ⟨active, -, ⟨target, owned, -⟩, -⟩
      rw [(activeTarget_eq_ok ctx).2 ⟨active, owned⟩] at found
      cases found
  | ok target =>
      obtain ⟨active, owned⟩ := (activeTarget_eq_ok ctx).1 found
      obtain ⟨reported, named, _⟩ := recorded.target target owned
      rw [reportPitfall_eq active owned named, ← reported]
      split <;> simp_all

theorem Recorded.reportPitfall_kept (recorded : ctx.Recorded sets) {kinds : Pitfalls} {span : Span}
    (silent : ¬(ctx.reportPitfall kinds span).1) : (ctx.reportPitfall kinds span).2 = ctx := by
  cases found : ctx.activeTarget with
  | error failure => simp [reportPitfall, found]
  | ok target =>
      obtain ⟨active, owned⟩ := (activeTarget_eq_ok ctx).1 found
      rw [reportPitfall_eq active owned (recorded.target target owned).named] at silent ⊢
      split at silent
      · exact absurd rfl silent
      · rename_i barred
        rw [if_neg barred]

theorem report_iff (host : Host) (toolkit : Toolkit) {ops : List (Op κ α)}
    (unmarked : ∀ kinds, .markReported kinds ∉ ops) (kinds : Pitfalls) (span : Span)
    (message : String) :
    let start : Context κ α := new host toolkit
    let ctx := (start.run ops).2
    let result := ctx.step (.reportPitfall kinds span message)
    (∀ target, ctx.target = some target → target.reported = .unionOf (start.reports ops)) ∧
    ∃ fires : Bool,
      result.1.answer = .warned fires ∧
      result.1.log = (if fires then [pitfallRecord span message] else []) ∧
      (fires ↔ ctx.phase = .active ∧ ctx.settings.emitPerfWarnings ∧
        ¬ctx.settings.disableWarnings ∧ .silence span.first.line span.file ∉ ops ∧
        (∃ target, ctx.target = some target ∧ kinds ⊆ target.relevantPitfalls) ∧
        ¬kinds ⊆ .unionOf (start.reports ops)) ∧
      (¬fires → result.2 = ctx) := by
  intro start ctx result
  have recorded : ctx.Recorded (start.reports ops) := (recorded_new host toolkit).run unmarked
  refine ⟨fun target owned => (recorded.target target owned).reported,
    (ctx.reportPitfall kinds span).1, rfl, rfl, ?_, recorded.reportPitfall_kept⟩
  rw [recorded.reportPitfall_iff]
  refine and_congr_right fun active => ?_
  have running : ctx.phase ≠ .tornDown := by simp [active]
  rw [reportsAt_run_iff rfl running, and_assoc, and_assoc]

theorem report_iff_silenced :
    let request : TargetRequest := { target := Isa.avx2.defaultTarget, os := .linux }
    let elsewhere : Span := .point "a.lane" 4 1
    let ops : List (Op Unit Unit) := [.silence 3 "a.lane", .activate request,
      .reportPitfall .divModInt (.point "a.lane" 3 1) "slow"]
    (∀ kinds, .markReported kinds ∉ ops) ∧
    (((new .unknown .builtin).run ops).2.step (.reportPitfall .divModInt elsewhere "slow")).1.log =
      [pitfallRecord elsewhere "slow"] := by
  intro request elsewhere ops
  have unmarked : ∀ kinds, .markReported kinds ∉ ops := by simp [ops]
  obtain ⟨-, fires, -, logged, fires_iff, -⟩ :=
    report_iff .unknown .builtin unmarked .divModInt elsewhere "slow"
  have matters : ∃ target, ((new .unknown .builtin).run ops).2.target = some target ∧
      .divModInt ⊆ target.relevantPitfalls := by
    have found : ((new .unknown .builtin).run ops).2.target.any
        (.divModInt ⊆ ·.relevantPitfalls) := by decide +kernel
    simpa [Option.any_eq_true] using found
  have fired : fires := fires_iff.2 ⟨by decide +kernel, by decide +kernel, by decide +kernel,
    by simp [ops, elsewhere, Span.point], matters, by decide +kernel⟩
  exact ⟨unmarked, by simpa [fired] using logged⟩

end Context

end Lanewise
