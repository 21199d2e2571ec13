import Lanewise.Proofs.Context.Lifecycle
import Lanewise.Toolkit.Builtin

namespace Lanewise

namespace Context

variable {κ α : Type}

inductive Entry (κ α : Type) where
  | own (op : Op κ α)
  | inserted (request : TargetRequest)

def Entry.op : Entry κ α → Op κ α
  | own op => op
  | inserted request => .activate request

def Entry.own? : Entry κ α → Option (Op κ α)
  | own op => some op
  | inserted _ => none

def ownOutcomes : List (Entry κ α) → List (Outcome κ α) → List (Outcome κ α)
  | .own _ :: entries, outcome :: outcomes => outcome :: ownOutcomes entries outcomes
  | .inserted _ :: entries, _ :: outcomes => ownOutcomes entries outcomes
  | _, _ => []

variable [DecidableEq κ] [Hashable κ] {ctx next : Context κ α} {op : Op κ α}
  {host : Host} {toolkit : Toolkit} {request : TargetRequest}

structure Equipped (ctx : Context κ α) (host : Host) (toolkit : Toolkit) : Prop where
  host : ctx.host = host
  toolkit : ∀ other, ctx.toolkit = some other → other = toolkit

theorem equipped_new (host : Host) (toolkit : Toolkit) :
    (new host toolkit : Context κ α).Equipped host toolkit where
  host := rfl
  toolkit := by simp [new]

theorem Equipped.change (equipped : ctx.Equipped host toolkit) (change : ctx.Change op next) :
    next.Equipped host toolkit := by
  cases change with
  | closed => exact ⟨equipped.host, by simp [Context.closed]⟩
  | _ => exact ⟨equipped.host, equipped.toolkit⟩

theorem Equipped.run (equipped : ctx.Equipped host toolkit) (ops : List (Op κ α)) :
    (ctx.run ops).2.Equipped host toolkit :=
  run_of_change (·.Equipped host toolkit) (fun _ _ _ change kept => kept.change change) ops equipped

theorem step_activate_of_fails (equipped : ctx.Equipped host toolkit) {failure : TargetFault}
    (fails : Target.create host toolkit request = .error failure) :
    (ctx.step (.activate request)).2 = ctx := by
  cases done : ctx.activate request with
  | error refusal => simp only [step, done, settleStep]
  | ok next =>
      obtain ⟨_, other, target, owned, created, _⟩ := (activate_eq_ok ctx).1 done
      rw [equipped.host, equipped.toolkit other owned, fails] at created
      cases created

theorem run_inserted (equipped : ctx.Equipped host toolkit) (entries : List (Entry κ α))
    (fails : ∀ request, .inserted request ∈ entries →
      ∃ failure, Target.create host toolkit request = .error failure) :
    let padded := ctx.run (entries.map Entry.op)
    let plain := ctx.run (entries.filterMap Entry.own?)
    ownOutcomes entries padded.1 = plain.1 ∧ padded.2 = plain.2 := by
  induction entries generalizing ctx with
  | nil => exact ⟨rfl, rfl⟩
  | cons entry entries ih =>
      have later := fun request member => fails request (List.mem_cons_of_mem _ member)
      cases entry with
      | own op =>
          obtain ⟨outcomes, ends⟩ := ih (equipped.change (ctx.step_change op)) later
          exact ⟨congrArg (_ :: ·) outcomes, ends⟩
      | inserted request =>
          obtain ⟨failure, failed⟩ := fails request List.mem_cons_self
          have kept := step_activate_of_fails equipped failed
          -- The rest runs from where the inserted activation found the context.
          change ownOutcomes entries
              ((ctx.step (.activate request)).2.run (entries.map Entry.op)).1 = _ ∧
            ((ctx.step (.activate request)).2.run (entries.map Entry.op)).2 = _
          rw [kept]
          exact ih equipped later

theorem failed_activation (host : Host) (toolkit : Toolkit) (ops : List (Op κ α)) :
    let start : Context κ α := new host toolkit
    let ctx := (start.run ops).2
    (ctx.phase = .configuring → ∀ request failure,
      Target.create host toolkit request = .error failure →
      ctx.step (.activate request) =
        ({ answer := .refused (.invalidTarget request.target failure)
           log := ctx.activationLog request }, ctx) ∧
      ctx.arena.isEmpty) ∧
    ∀ entries : List (Entry κ α),
      (∀ request, .inserted request ∈ entries →
        ∃ failure, Target.create host toolkit request = .error failure) →
      ownOutcomes entries (start.run (entries.map Entry.op)).1 =
        (start.run (entries.filterMap Entry.own?)).1 ∧
      (start.run (entries.map Entry.op)).2 = (start.run (entries.filterMap Entry.own?)).2 := by
  intro start ctx
  have equipped : ctx.Equipped host toolkit := (equipped_new host toolkit).run ops
  obtain ⟨objects, (coherent : ctx.Coherent objects)⟩ := (coherent_new host toolkit).run ops
  refine ⟨?_, fun entries fails => run_inserted (equipped_new host toolkit) entries fails⟩
  intro phase request failure fails
  obtain ⟨other, owned⟩ := Option.isSome_iff_exists.1
    (coherent.toolkit_isSome.2 (by simp [phase]))
  rw [← equipped.host, ← equipped.toolkit other owned] at fails
  refine ⟨?_, coherent.holds.isEmpty_iff.2 (coherent.idle (by simp [phase]))⟩
  rw [step, activate_of_fails ctx phase owned fails, settleStep]

theorem failed_activation_foreign :
    let start : Context Unit Unit := new .unknown .builtin
    let request : TargetRequest := { target := Isa.avx2.defaultTarget, os := .linux }
    let foreign : TargetRequest := { request with arch := some .aarch64 }
    let entries : List (Entry Unit Unit) := [.inserted foreign, .own (.activate request)]
    ∃ failure, Target.create .unknown .builtin foreign = .error failure ∧
      (start.step (.activate foreign)).1.answer =
        .refused (.invalidTarget foreign.target failure) ∧
      ownOutcomes entries (start.run [.activate foreign, .activate request]).1 =
        (start.run [.activate request]).1 := by
  intro start request foreign entries
  have fails : Target.create .unknown .builtin foreign =
      .error (.incompatibleArch .aarch64 foreign.target) := rfl
  obtain ⟨refused, unnoticed⟩ := failed_activation (κ := Unit) (α := Unit) .unknown .builtin []
  refine ⟨_, fails, congrArg (·.1.answer) (refused rfl foreign _ fails).1,
    (unnoticed entries fun other member => ?_).1⟩
  obtain rfl : other = foreign := by simpa [entries] using member
  exact ⟨_, fails⟩

end Context

end Lanewise
