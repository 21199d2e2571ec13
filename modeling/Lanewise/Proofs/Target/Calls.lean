import Lanewise.Proofs.Pitfalls.Fresh
import Lanewise.Proofs.Target.Reports
import Lanewise.Toolkit.Builtin

namespace Lanewise

namespace Target

variable {target : Target} {kinds : Pitfalls} {call : ReportCall} {calls : List ReportCall}

theorem matters_iff : target.matters kinds ↔ kinds ⊆ target.relevantPitfalls :=
  Pitfalls.contains_iff

theorem hasReported_iff : target.hasReported kinds ↔ kinds ⊆ target.reportedKinds :=
  Pitfalls.contains_iff

theorem subset_reportedKinds_iff (named : kinds ⊆ .kindMask) :
    kinds ⊆ target.reportedKinds ↔ kinds ⊆ target.reported :=
  Pitfalls.subset_known_iff named

theorem granted_iff : (target.claimReport kinds).1 ↔
    kinds ⊆ target.relevantPitfalls ∧ ¬kinds ⊆ target.reportedKinds := by
  rw [← matters_iff, ← hasReported_iff, claimReport]
  cases target.matters kinds <;> simp

theorem claimReport_snd_of_matters (matters : kinds ⊆ target.relevantPitfalls) :
    (target.claimReport kinds).2 = target.markReported kinds := by
  rw [claimReport, if_pos (matters_iff.2 matters)]

def recorded? (target : Target) : ReportCall → Option Pitfalls
  | .claim kinds => if kinds ⊆ target.relevantPitfalls then some kinds else none
  | .mark kinds => some kinds

def granted? (target : Target) : ReportCall → Option Pitfalls
  | .claim kinds => if (target.claimReport kinds).1 then some kinds else none
  | .mark _ => none

def after (target : Target) : ReportCall → Target
  | .claim kinds => (target.claimReport kinds).2
  | .mark kinds => target.markReported kinds

theorem after_eq (target : Target) (call : ReportCall) :
    target.after call = ((target.recorded? call).map target.markReported).getD target := by
  cases call with
  | mark kinds => rfl
  | claim kinds =>
      by_cases matters : kinds ⊆ target.relevantPitfalls
      · simp [after, claimReport_snd_of_matters matters, recorded?, matters]
      · have idle : target.matters kinds = false := by simpa using mt matters_iff.1 matters
        simp [after, claimReport, recorded?, matters, idle]

theorem relevantPitfalls_after (target : Target) (call : ReportCall) :
    (target.after call).relevantPitfalls = target.relevantPitfalls := by
  rw [after_eq]
  cases target.recorded? call <;> rfl

theorem reported_after (target : Target) (call : ReportCall) :
    (target.after call).reported =
      target.reported.union (.unionOf (target.recorded? call).toList) := by
  rw [after_eq]
  cases target.recorded? call with
  | none => exact (Pitfalls.union_empty _).symm
  | some kinds => exact congrArg target.reported.union (Pitfalls.union_empty kinds).symm

theorem recorded?_after (target : Target) (call : ReportCall) :
    (target.after call).recorded? = target.recorded? := by
  funext other
  cases other with
  | claim kinds => rw [recorded?, recorded?, relevantPitfalls_after]
  | mark kinds => rfl

theorem granted?_eq_some (granted : target.granted? call = some kinds) :
    call = .claim kinds ∧ kinds ⊆ target.relevantPitfalls ∧ ¬kinds ⊆ target.reportedKinds := by
  cases call with
  | mark marked => cases granted
  | claim claimed =>
      rw [granted?, Option.ite_none_right_eq_some, Option.some.injEq] at granted
      obtain ⟨granted, rfl⟩ := granted
      exact ⟨rfl, granted_iff.1 granted⟩

def recordings (target : Target) (calls : List ReportCall) : List Pitfalls :=
  calls.filterMap target.recorded?

def granted (target : Target) : List ReportCall → List Pitfalls
  | [] => []
  | call :: calls => (target.granted? call).toList ++ (target.after call).granted calls

theorem noted_cons (target : Target) (call : ReportCall) (calls : List ReportCall) :
    target.noted (call :: calls) = (target.after call).noted calls := by
  cases call <;> rfl

theorem relevantPitfalls_noted (target : Target) (calls : List ReportCall) :
    (target.noted calls).relevantPitfalls = target.relevantPitfalls := by
  obtain ⟨reported, same⟩ := target.noted_eq calls
  rw [same]
  rfl

theorem reported_noted (target : Target) (calls : List ReportCall) :
    (target.noted calls).reported = target.reported.union (.unionOf (target.recordings calls)) := by
  induction calls generalizing target with
  | nil => exact (Pitfalls.union_empty _).symm
  | cons call calls ih =>
      -- What the rest records does not hang on what was recorded before.
      have rest : (target.after call).recordings calls = target.recordings calls := by
        rw [recordings, recordings, recorded?_after]
      have split : target.recordings (call :: calls) =
          (target.recorded? call).toList ++ target.recordings calls := by
        rw [recordings, List.filterMap_cons]
        cases target.recorded? call <;> rfl
      rw [noted_cons, ih, rest, reported_after, split, Pitfalls.unionOf_append,
        Pitfalls.union_assoc]

theorem reported_subset_after (target : Target) (call : ReportCall) :
    target.reported ⊆ (target.after call).reported := by
  rw [reported_after]
  exact Pitfalls.subset_union_left

theorem not_subset_of_mem_granted (relevant : target.relevantPitfalls ⊆ .kindMask)
    (member : kinds ∈ target.granted calls) : ¬kinds ⊆ target.reported := by
  induction calls generalizing target with
  | nil => cases member
  | cons call calls ih =>
      rcases List.mem_append.1 member with now | later
      · obtain ⟨-, matters, fresh⟩ := granted?_eq_some (Option.mem_toList.1 now)
        rwa [subset_reportedKinds_iff (Pitfalls.subset_trans matters relevant)] at fresh
      · have fresh := ih (by rwa [relevantPitfalls_after]) later
        exact fun kept => fresh (Pitfalls.subset_trans kept (target.reported_subset_after call))

theorem pairwise_granted (relevant : target.relevantPitfalls ⊆ .kindMask)
    (calls : List ReportCall) :
    (target.granted calls).Pairwise fun earlier later => ¬later ⊆ earlier := by
  induction calls generalizing target with
  | nil => exact .nil
  | cons call calls ih =>
      have relevant' : (target.after call).relevantPitfalls ⊆ .kindMask := by
        rwa [relevantPitfalls_after]
      rw [granted]
      cases granted : target.granted? call with
      | none => exact ih relevant'
      | some kinds =>
          obtain ⟨rfl, matters, -⟩ := granted?_eq_some granted
          have kept : kinds ⊆ (target.after (.claim kinds)).reported := by
            rw [reported_after, recorded?, if_pos matters]
            exact Pitfalls.subset_trans (Pitfalls.subset_unionOf (List.mem_singleton_self kinds))
              Pitfalls.subset_union_right
          refine List.pairwise_cons.2 ⟨fun later member repeated => ?_, ih relevant'⟩
          exact not_subset_of_mem_granted relevant' member (Pitfalls.subset_trans repeated kept)

theorem count_granted_le_one (relevant : target.relevantPitfalls ⊆ .kindMask)
    (calls : List ReportCall) (kinds : Pitfalls) : (target.granted calls).count kinds ≤ 1 := by
  refine List.nodup_iff_count_le_one.1 ?_ kinds
  refine (pairwise_granted relevant calls).imp ?_
  rintro earlier later fresh rfl
  exact fresh (Pitfalls.subset_refl _)

/-- What a new target has reported after a run of calls, and which claims it grants: no set is
granted twice, and none that lies within a set marked before. -/
theorem noted_decided (host : Host) (toolkit : Toolkit) (request : TargetRequest)
    (calls : List ReportCall) :
    let start := build host toolkit request
    let target := start.noted calls
    target.reportedKinds = (Pitfalls.unionOf (start.recordings calls)).known ∧
    (∀ kinds, target.hasReported kinds ↔ kinds ⊆ target.reportedKinds) ∧
    (∀ kinds, target.hasReported kinds → kinds ⊆ .kindMask) ∧
    (∀ kind ∈ Pitfalls.kinds,
      target.hasReported kind.2 ↔ ∃ set ∈ start.recordings calls, kind.2 ⊆ set) ∧
    (∀ kinds, (target.claimReport kinds).1 ↔
      kinds ⊆ start.relevantPitfalls ∧ ¬kinds ⊆ target.reportedKinds) ∧
    (∀ kinds, (start.granted calls).count kinds ≤ 1) ∧
    ∀ before marked later, calls = before ++ .mark marked :: later →
      ∀ kinds, kinds ⊆ marked →
        kinds ∉ ((start.noted before).markReported marked).granted later := by
  intro start target
  have relevant : start.relevantPitfalls ⊆ .kindMask := relevantPitfalls_build
  have reported : target.reported = .unionOf (start.recordings calls) := by
    rw [reported_noted]
    exact Pitfalls.empty_union _
  refine ⟨congrArg Pitfalls.known reported, fun kinds => hasReported_iff, fun kinds answered => ?_,
    fun kind listed => ?_, fun kinds => ?_, count_granted_le_one relevant calls, ?_⟩
  · exact Pitfalls.subset_trans (hasReported_iff.1 answered) Pitfalls.known_subset
  · rw [hasReported_iff, subset_reportedKinds_iff (Pitfalls.kind_subset kind listed), reported]
    constructor
    · exact Pitfalls.exists_of_subset_unionOf listed
    · rintro ⟨set, member, inside⟩
      exact Pitfalls.subset_trans inside (Pitfalls.subset_unionOf member)
  · rw [granted_iff, relevantPitfalls_noted]
  · intro before marked later _ kinds inside member
    have same : ((start.noted before).markReported marked).relevantPitfalls =
        start.relevantPitfalls :=
      (relevantPitfalls_after _ (.mark marked)).trans (relevantPitfalls_noted start before)
    exact not_subset_of_mem_granted (same ▸ relevant) member
      (Pitfalls.subset_trans inside Pitfalls.subset_union_right)

theorem noted_decided_overlapping :
    let start := build .unknown .builtin { target := Isa.sse2.defaultTarget, os := .linux }
    let both := Pitfalls.cvtUintFloat.union .divModInt
    let marked : Pitfalls := ⟨0x88⟩
    let later : List ReportCall := [.claim .divModInt, .claim .variableShiftRight]
    let calls := .claim both :: .mark marked :: later
    let halfway := (start.noted [.claim both]).markReported marked
    (start.noted calls).reportedKinds = both.union .variableShiftRight ∧
      start.granted calls = [both] ∧ (start.granted calls).count both ≤ 1 ∧
      Pitfalls.variableShiftRight ∉ halfway.granted later := by
  intro start both marked later calls halfway
  obtain ⟨-, -, -, -, -, once, silent⟩ :=
    noted_decided .unknown .builtin { target := Isa.sse2.defaultTarget, os := .linux } calls
  refine ⟨by decide +kernel, by decide +kernel, once both, ?_⟩
  exact silent [.claim both] marked later rfl .variableShiftRight (by decide)

end Target

end Lanewise
