import Lanewise.Proofs.Context.Reports
import Lanewise.Proofs.Target.Calls

/-!
# Repetition of reports

The target remembers what was reported and refuses a set that has nothing else. It grants a larger
set as a whole, also the part of it that was reported before: so a kind is reported once if it comes
back in smaller sets only, and each report has some kind that none before it had.
-/

namespace Lanewise

namespace Context

def Op.asked? {κ α : Type} : Op κ α → Option Pitfalls
  | .reportPitfall kinds _ _ => some kinds
  | _ => none

variable {κ α : Type} [DecidableEq κ] [Hashable κ] {ctx next : Context κ α} {op : Op κ α}
  {sets : List Pitfalls} {target : Target}

/-- The target of a context remembers these sets, each of which brought something new. -/
structure Covers (ctx : Context κ α) (sets : List Pitfalls) : Prop where
  fresh : Pitfalls.Fresh sets
  idle : ctx.phase = .configuring → sets = []
  reported : ∀ target, ctx.target = some target → .unionOf sets ⊆ target.reported
  relevant : ∀ target, ctx.target = some target → target.relevantPitfalls ⊆ .kindMask

theorem covers_new (host : Host) (toolkit : Toolkit) :
    (new host toolkit : Context κ α).Covers [] where
  fresh := .nil
  idle _ := rfl
  reported := by simp [new]
  relevant := by simp [new]

theorem Covers.change (covers : ctx.Covers sets) (change : ctx.Change op next) :
    next.Covers sets := by
  obtain ⟨fresh, idle, reported, relevant⟩ := covers
  cases change with
  | activated toolkit request target phase owned created =>
      -- There was no target to report on before.
      obtain rfl := idle phase
      obtain ⟨-, rfl⟩ := Target.create_eq_ok.1 created
      refine ⟨fresh, fun _ => rfl, ?_, ?_⟩ <;> rintro _ ⟨⟩
      · exact fun bit member => absurd member (by simp [Pitfalls.unionOf])
      · exact Target.relevantPitfalls_build
  | reported _ target kinds _ _ owned phase =>
      refine ⟨fresh, idle, ?_, ?_⟩ <;> rintro _ ⟨⟩
      · exact fun bit member => by simp [Target.markReported, reported target owned bit member]
      · exact relevant target owned
  | closed => exact ⟨fresh, by simp [closed], by simp [closed], by simp [closed]⟩
  | _ => exact ⟨fresh, idle, reported, relevant⟩

theorem reportPitfall_fires {kinds : Pitfalls} {span : Span}
    (fires : (ctx.reportPitfall kinds span).1) :
    ∃ target, ctx.phase = .active ∧ ctx.target = some target ∧ (target.claimReport kinds).1 ∧
      (ctx.reportPitfall kinds span).2 =
        { ctx with target := some (target.claimReport kinds).2 } := by
  cases found : ctx.activeTarget with
  | error failure => simp [reportPitfall, found] at fires
  | ok target =>
      obtain ⟨active, owned⟩ := (activeTarget_eq_ok ctx).1 found
      by_cases heard : ctx.reportsAt span
      · simp only [reportPitfall, found, heard, if_true] at fires ⊢
        exact ⟨target, active, owned, fires, rfl⟩
      · simp [reportPitfall, found, heard] at fires

theorem Covers.report (covers : ctx.Covers sets) {kinds : Pitfalls} {span : Span}
    (fires : (ctx.reportPitfall kinds span).1) :
    (ctx.reportPitfall kinds span).2.Covers (sets ++ [kinds]) := by
  obtain ⟨target, active, owned, granted, left⟩ := reportPitfall_fires fires
  have relevant := covers.relevant target owned
  obtain ⟨matters, unreported⟩ := Target.granted_iff.1 granted
  have named := Pitfalls.subset_trans matters relevant
  rw [Target.subset_reportedKinds_iff named] at unreported
  -- The target remembers at least what was reported, so what it does not know is new.
  have remembered := covers.reported target owned
  rw [left, Target.claimReport_snd_of_matters matters]
  refine ⟨.snoc covers.fresh named ?_, by simp [active], ?_, ?_⟩
  · exact fun repeated => unreported (Pitfalls.subset_trans repeated remembered)
  · rintro _ ⟨⟩ bit member
    rw [Pitfalls.unionOf_append_singleton, Pitfalls.has_union, Bool.or_eq_true] at member
    rw [Target.markReported, Pitfalls.has_union, Bool.or_eq_true]
    exact member.imp_left (remembered bit)
  · rintro _ ⟨⟩
    exact relevant

theorem Covers.step (covers : ctx.Covers sets) (op : Op κ α) :
    (ctx.step op).2.Covers (sets ++ ctx.reported op) := by
  have kept : (ctx.step op).2.Covers sets := covers.change (ctx.step_change op)
  cases op with
  | reportPitfall kinds span message =>
      rw [reported_reportPitfall]
      split
      · rename_i fires
        exact covers.report fires
      · rwa [List.append_nil]
  | _ => rwa [reported_eq_nil (by simp), List.append_nil]

theorem Covers.run (covers : ctx.Covers sets) (ops : List (Op κ α)) :
    (ctx.run ops).2.Covers (sets ++ ctx.reports ops) := by
  -- Each operation adds what it reports to what is remembered, and nothing is forgotten.
  induction ops generalizing ctx sets with
  | nil => simpa [reports, Context.run] using covers
  | cons op ops ih =>
      have later := ih (covers.step op)
      rwa [List.append_assoc] at later

def Hears (ctx : Context κ α) (kinds : Pitfalls) (span : Span) : Prop :=
  ctx.phase = .active ∧ ctx.reportsAt span ∧
    ∃ target, ctx.target = some target ∧ kinds ⊆ target.relevantPitfalls

theorem reports_append (ctx : Context κ α) (ops more : List (Op κ α)) :
    ctx.reports (ops ++ more) = ctx.reports ops ++ (ctx.run ops).2.reports more := by
  induction ops generalizing ctx with
  | nil => rfl
  | cons op ops ih => rw [List.cons_append, reports, ih, reports, run_cons, List.append_assoc]

theorem Recorded.subset_unionOf (recorded : ctx.Recorded sets) {kinds : Pitfalls} {span : Span}
    (heard : ctx.Hears kinds span) (message : String) :
    kinds ⊆ .unionOf (sets ++ ctx.reported (.reportPitfall kinds span message)) := by
  by_cases repeated : kinds ⊆ .unionOf sets
  · exact Pitfalls.subset_trans repeated (Pitfalls.unionOf_mono (List.subset_append_left _ _))
  · obtain ⟨active, loud, matters⟩ := heard
    have fires := (recorded.reportPitfall_iff kinds span).2 ⟨active, loud, matters, repeated⟩
    rw [reported_reportPitfall, if_pos fires]
    exact Pitfalls.subset_unionOf (by simp)

theorem Recorded.subset_reports (recorded : ctx.Recorded sets) {before : List (Op κ α)}
    {kinds : Pitfalls} {span : Span} (unmarked : ∀ marked, .markReported marked ∉ before)
    (heard : (ctx.run before).2.Hears kinds span) (message : String) (after : List (Op κ α)) :
    kinds ⊆ .unionOf
      (sets ++ ctx.reports (before ++ .reportPitfall kinds span message :: after)) := by
  have now := (recorded.run unmarked).subset_unionOf heard message
  refine Pitfalls.subset_trans now (Pitfalls.unionOf_mono ?_)
  rw [reports_append, reports, ← List.append_assoc, ← List.append_assoc]
  exact List.subset_append_left _ _

theorem reported_sublist (ctx : Context κ α) (op : Op κ α) :
    (ctx.reported op).Sublist op.asked?.toList := by
  cases op with
  | reportPitfall kinds span message =>
      rw [reported_reportPitfall]
      split
      · exact .refl _
      · exact List.nil_sublist _
  | _ => exact List.nil_sublist _

theorem reports_sublist (ctx : Context κ α) (ops : List (Op κ α)) :
    (ctx.reports ops).Sublist (ops.filterMap Op.asked?) := by
  induction ops generalizing ctx with
  | nil => exact .refl _
  | cons op ops ih =>
      have asked : (op :: ops).filterMap Op.asked? =
          op.asked?.toList ++ ops.filterMap Op.asked? := by
        cases found : op.asked? <;> simp [found]
      rw [asked]
      exact (ctx.reported_sublist op).append (ih _)

/-- Each kind of a set that is heard is reported, unless kinds were marked by hand. Every report
has a kind that no report before it had, so there are no more of them than kinds. A kind is reported
at most once if it never comes back with something else. -/
theorem kind_reported_once (host : Host) (toolkit : Toolkit) (ops : List (Op κ α)) :
    let start : Context κ α := new host toolkit
    let reports := start.reports ops
    (∀ before kinds span message after,
      ops = before ++ .reportPitfall kinds span message :: after →
      (∀ marked, .markReported marked ∉ before) → (start.run before).2.Hears kinds span →
      ∀ kind ∈ Pitfalls.kinds, kind.2 ⊆ kinds → ∃ set ∈ reports, kind.2 ⊆ set) ∧
    (∀ earlier kinds later, reports = earlier ++ kinds :: later →
      ∃ kind ∈ Pitfalls.kinds, kind.2 ⊆ kinds ∧ ∀ before ∈ earlier, ¬kind.2 ⊆ before) ∧
    reports.length ≤ Pitfalls.kinds.length ∧
    ∀ kind ∈ Pitfalls.kinds,
      ((ops.filterMap Op.asked?).filter (kind.2 ⊆ ·)).Pairwise
        (fun earlier later => later ⊆ earlier) →
      (reports.filter (kind.2 ⊆ ·)).length ≤ 1 := by
  intro start reports
  have fresh : Pitfalls.Fresh reports := ((covers_new host toolkit).run ops).fresh
  refine ⟨fun before kinds span message after at_report unmarked heard kind listed inside => ?_,
    fun earlier kinds later split => ?_, fresh.length_le.trans (Pitfalls.kindCount_le _),
    fun kind _ narrowing => ?_⟩
  · have reported : kinds ⊆ .unionOf (start.reports ops) := by
      rw [at_report]
      exact (recorded_new host toolkit).subset_reports unmarked heard message after
    exact Pitfalls.exists_of_subset_unionOf listed (Pitfalls.subset_trans inside reported)
  · obtain ⟨named, brings⟩ := fresh.split split
    obtain ⟨kind, listed, inside, absent⟩ := Pitfalls.exists_kind_of_not_subset named brings
    refine ⟨kind, listed, inside, fun before member repeated => absent ?_⟩
    exact Pitfalls.subset_trans repeated (Pitfalls.subset_unionOf member)
  · exact fresh.length_filter_le_one
      (narrowing.sublist ((reports_sublist (new host toolkit) ops).filter (kind.2 ⊆ ·)))

theorem kind_reported_once_narrowing :
    let request : TargetRequest := { target := Isa.sse2.defaultTarget, os := .linux }
    let both := Pitfalls.cvtUintFloat.union .divModInt
    let place : Span := .point "a.lane" 3 1
    let opening : List (Op Unit Unit) := [.activate request]
    let ops := opening ++ [.reportPitfall both place "slow",
      .reportPitfall .divModInt (.point "a.lane" 4 1) "slow"]
    let start : Context Unit Unit := new .unknown .builtin
    let reports := start.reports ops
    (start.run opening).2.Hears both place ∧
      ((ops.filterMap Op.asked?).filter (Pitfalls.divModInt ⊆ ·)).Pairwise
        (fun earlier later => later ⊆ earlier) ∧
      (∃ set ∈ reports, Pitfalls.divModInt ⊆ set) ∧
      (reports.filter (Pitfalls.divModInt ⊆ ·)).length ≤ 1 := by
  intro request both place opening ops start reports
  have matters : ∃ target, (start.run opening).2.target = some target ∧
      both ⊆ target.relevantPitfalls := by
    have found : (start.run opening).2.target.any (both ⊆ ·.relevantPitfalls) := by decide +kernel
    simpa [Option.any_eq_true] using found
  have heard : (start.run opening).2.Hears both place :=
    ⟨by decide +kernel, by decide +kernel, matters⟩
  have narrowing : ((ops.filterMap Op.asked?).filter (Pitfalls.divModInt ⊆ ·)).Pairwise
      (fun earlier later => later ⊆ earlier) := by decide
  have unmarked : ∀ marked, .markReported marked ∉ opening := by simp [opening]
  obtain ⟨once, -, -, at_most_once⟩ := kind_reported_once .unknown .builtin ops
  refine ⟨heard, narrowing, ?_, at_most_once ("DIV_MOD_INT", .divModInt) (by decide) narrowing⟩
  exact once opening both place "slow" _ rfl unmarked heard ("DIV_MOD_INT", .divModInt) (by decide)
    (by decide)

/-- A kind that was reported alone is reported again within a set that has more. -/
theorem kind_reported_twice :
    let request : TargetRequest := { target := Isa.sse2.defaultTarget, os := .linux }
    let both := Pitfalls.cvtUintFloat.union .divModInt
    let ops : List (Op Unit Unit) := [.activate request,
      .reportPitfall .divModInt (.point "a.lane" 3 1) "slow",
      .reportPitfall both (.point "a.lane" 4 1) "slow"]
    let reports := (new .unknown .builtin : Context Unit Unit).reports ops
    reports = [.divModInt, both] ∧
      ¬∀ kind ∈ Pitfalls.kinds, (reports.filter (kind.2 ⊆ ·)).length ≤ 1 := by
  decide +kernel

end Context

end Lanewise
