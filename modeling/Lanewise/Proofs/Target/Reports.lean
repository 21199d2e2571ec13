import Lanewise.Proofs.Pitfalls
import Lanewise.Proofs.Target.Construction

namespace Lanewise

inductive ReportCall where
  | claim (kinds : Pitfalls)
  | mark (kinds : Pitfalls)

namespace Target

variable {target : Target} {kinds : Pitfalls} {host : Host} {toolkit : Toolkit}
  {request : TargetRequest}

def noted (target : Target) : List ReportCall → Target
  | [] => target
  | .claim kinds :: calls => (target.claimReport kinds).2.noted calls
  | .mark kinds :: calls => (target.markReported kinds).noted calls

theorem claimReport_snd (target : Target) (kinds : Pitfalls) :
    ∃ reported, (target.claimReport kinds).2 = { target with reported } := by
  by_cases matters : target.matters kinds
  · exact ⟨target.reported.union kinds, by simp [claimReport, matters, markReported]⟩
  · exact ⟨target.reported, by simp [claimReport, matters]⟩

theorem noted_eq (target : Target) (calls : List ReportCall) :
    ∃ reported, target.noted calls = { target with reported } := by
  induction calls generalizing target with
  | nil => exact ⟨target.reported, rfl⟩
  | cons call calls ih =>
      cases call with
      | claim kinds =>
          obtain ⟨before, claimed⟩ := target.claimReport_snd kinds
          obtain ⟨after, rest⟩ := ih (target.claimReport kinds).2
          exact ⟨after, by rw [noted, rest, claimed]⟩
      | mark kinds =>
          obtain ⟨after, rest⟩ := ih (target.markReported kinds)
          exact ⟨after, by rw [noted, rest, markReported]⟩

theorem isValid_noted (target : Target) (calls : List ReportCall) :
    (target.noted calls).isValid = target.isValid := by
  obtain ⟨reported, same⟩ := target.noted_eq calls
  rw [same]
  rfl

theorem relevantPitfalls_build : (build host toolkit request).relevantPitfalls ⊆ .kindMask := by
  cases outcome : assemble host toolkit request with
  | error failure =>
      rw [relevantPitfalls, profile_of_error outcome]
      exact fun _ member => absurd member (by simp [Profile.bare])
  | ok parts =>
      rw [relevantPitfalls, profile_of_ok outcome]
      exact Pitfalls.relevant_subset _

theorem claimReport_eq (named : target.reported ⊆ .kindMask) (kinds : Pitfalls) :
    target.claimReport kinds =
      if kinds ⊆ target.relevantPitfalls ∧ ¬kinds ⊆ target.reported then
        (true, target.markReported kinds)
      else (false, target) := by
  have matters : target.matters kinds ↔ kinds ⊆ target.relevantPitfalls := Pitfalls.contains_iff
  have known : target.hasReported kinds ↔ kinds ⊆ target.reported := by
    rw [hasReported, reportedKinds, Pitfalls.known_eq named, Pitfalls.contains_iff]
  by_cases relevant : kinds ⊆ target.relevantPitfalls
  · by_cases repeated : kinds ⊆ target.reported
    · -- A repeated claim adds nothing to the reported set.
      have same : target.markReported kinds = target := by
        rw [markReported, Pitfalls.union_eq repeated]
      rw [claimReport, if_pos (matters.2 relevant), known.2 repeated, same,
        if_neg fun both => both.2 repeated]
      rfl
    · have fresh : target.hasReported kinds = false := by simpa using mt known.1 repeated
      rw [claimReport, if_pos (matters.2 relevant), fresh, if_pos ⟨relevant, repeated⟩]
      rfl
  · rw [claimReport, if_neg (mt matters.1 relevant), if_neg fun both => relevant both.1]

structure Recorded (target : Target) (sets : List Pitfalls) : Prop where
  reported : target.reported = .unionOf sets
  named : target.reported ⊆ .kindMask
  relevant : target.relevantPitfalls ⊆ .kindMask

theorem recorded_build (host : Host) (toolkit : Toolkit) (request : TargetRequest) :
    (build host toolkit request).Recorded [] where
  reported := rfl
  named := fun _ member => absurd member (by simp [build])
  relevant := relevantPitfalls_build

theorem Recorded.markReported {sets : List Pitfalls} (recorded : target.Recorded sets)
    (matters : kinds ⊆ target.relevantPitfalls) :
    (target.markReported kinds).Recorded (sets ++ [kinds]) where
  reported := by
    rw [Pitfalls.unionOf_append_singleton, ← recorded.reported]
    rfl
  named := Pitfalls.union_subset recorded.named (Pitfalls.subset_trans matters recorded.relevant)
  relevant := recorded.relevant

end Target

end Lanewise
