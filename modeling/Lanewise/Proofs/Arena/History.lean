import Lanewise.Proofs.Arena.Contents
import Mathlib.Data.List.Induction

namespace Lanewise

namespace Arena

variable {κ α : Type}

def Op.object? : Op κ α → Option (κ × α)
  | .register kind object => some (kind, object)
  | .release => none

def Op.isRelease : Op κ α → Bool
  | .register _ _ => false
  | .release => true

def Answer.destroyed : Answer κ α → List (κ × α)
  | .registered _ => []
  | .released objects => objects

def Answer.destroys (answer : Answer κ α) : Bool := !answer.destroyed.isEmpty

def registered (history : List (Op κ α)) : List (κ × α) := history.filterMap Op.object?

def Op.pend (waiting : List (κ × α)) : Op κ α → List (κ × α)
  | .register kind object => waiting ++ [(kind, object)]
  | .release => []

/-- The objects that a history has registered since its last release, oldest first. -/
def pending (history : List (Op κ α)) : List (κ × α) := history.foldl Op.pend []

theorem pending_concat (history : List (Op κ α)) (op : Op κ α) :
    pending (history ++ [op]) = op.pend (pending history) := by
  simp [pending]

theorem pending_append (before after : List (Op κ α)) (keeps : .release ∉ after) :
    pending (before ++ after) = pending before ++ registered after := by
  induction after using List.reverseRecOn with
  | nil => simp [registered]
  | append_singleton after op ih =>
      rw [List.mem_append, not_or] at keeps
      rw [← List.append_assoc, pending_concat, ih keeps.1]
      cases op with
      | register kind object => simp [Op.pend, registered, Op.object?]
      | release => exact absurd (List.mem_singleton_self _) keeps.2

theorem mem_pending (before middle : List (Op κ α)) (kind : κ) (object : α)
    (keeps : .release ∉ middle) :
    (kind, object) ∈ pending (before ++ .register kind object :: middle) := by
  have keeps' : .release ∉ Op.register kind object :: middle := by simpa using keeps
  rw [pending_append _ _ keeps']
  simp [registered, Op.object?]

variable [DecidableEq κ] [Hashable κ]

theorem run_append (arena : Arena κ α) (before after : List (Op κ α)) :
    arena.run (before ++ after) =
      ((arena.run before).1 ++ ((arena.run before).2.run after).1,
        ((arena.run before).2.run after).2) := by
  induction before generalizing arena with
  | nil => rfl
  | cons op before ih => simp only [List.cons_append, run, ih]

theorem length_run (arena : Arena κ α) (history : List (Op κ α)) :
    (arena.run history).1.length = history.length := by
  induction history generalizing arena with
  | nil => rfl
  | cons op history ih => simp only [run, List.length_cons, ih]

abbrev answers (history : List (Op κ α)) : List (Answer κ α) := ((empty : Arena κ α).run history).1

abbrev after (history : List (Op κ α)) : Arena κ α := ((empty : Arena κ α).run history).2

theorem after_concat (history : List (Op κ α)) (op : Op κ α) :
    after (history ++ [op]) = ((after history).step op).2 := by
  simp only [after, run_append, run]

theorem answers_concat (history : List (Op κ α)) (op : Op κ α) :
    answers (history ++ [op]) = answers history ++ [((after history).step op).1] := by
  simp only [answers, run_append, run]

theorem answer_at (before rest : List (Op κ α)) (op : Op κ α) :
    (answers (before ++ op :: rest))[before.length]? = some ((after before).step op).1 := by
  have start : (answers (before : List (Op κ α))).length = before.length := length_run _ _
  rw [answers, run_append, List.getElem?_append_right (Nat.le_of_eq start), start, Nat.sub_self]
  rfl

theorem holds_after (history : List (Op κ α)) : (after history).Holds (pending history) := by
  induction history using List.reverseRecOn with
  | nil => exact holds_empty 0
  | append_singleton history op ih =>
      rw [after_concat, pending_concat]
      cases op with
      | register kind object => exact ih.register kind object
      | release => exact holds_empty _

/-- The number of releases of a history that gave up an object. -/
def renewals (history : List (Op κ α)) : Nat := (answers history).countP Answer.destroys

theorem renewals_register (history : List (Op κ α)) (kind : κ) (object : α) :
    renewals (history ++ [.register kind object]) = renewals history := by
  simp [renewals, answers_concat, step, Answer.destroys, Answer.destroyed]

theorem renewals_release (history : List (Op κ α)) :
    renewals (history ++ [.release]) =
      renewals history + if pending history = [] then 0 else 1 := by
  rw [renewals, answers_concat, List.countP_append, ← renewals]
  by_cases nothing : pending history = [] <;>
    simp [step, (holds_after history).drain, Answer.destroys, Answer.destroyed, nothing]

theorem epoch_after (history : List (Op κ α)) :
    (after history).epoch = UInt64.ofNat (renewals history) := by
  induction history using List.reverseRecOn with
  | nil => rfl
  | append_singleton history op ih =>
      rw [after_concat]
      cases op with
      | register kind object => rw [renewals_register]; exact ih
      | release =>
          have drained : ((after history).step .release).2 = (after history).drain.2 := rfl
          rw [drained, (holds_after history).drain, renewals_release]
          by_cases nothing : pending history = [] <;> simp [nothing, ih]

theorem renewals_le_append (before after : List (Op κ α)) :
    renewals before ≤ renewals (before ++ after) := by
  rw [renewals, renewals, answers, answers, run_append, List.countP_append]
  exact Nat.le_add_right _ _

theorem renewals_append (before after : List (Op κ α)) (keeps : .release ∉ after) :
    renewals (before ++ after) = renewals before := by
  induction after using List.reverseRecOn with
  | nil => simp
  | append_singleton after op ih =>
      rw [List.mem_append, not_or] at keeps
      rw [← List.append_assoc]
      cases op with
      | register kind object => rw [renewals_register, ih keeps.1]
      | release => exact absurd (List.mem_singleton_self _) keeps.2

theorem renewals_le_releases (history : List (Op κ α)) :
    renewals history ≤ history.countP Op.isRelease := by
  induction history using List.reverseRecOn with
  | nil => exact Nat.le_refl _
  | append_singleton history op ih =>
      rw [List.countP_append]
      cases op with
      | register kind object => rw [renewals_register]; exact Nat.le_trans ih (Nat.le_add_right _ _)
      | release =>
          have counted : [Op.release].countP (Op.isRelease (κ := κ) (α := α)) = 1 := rfl
          rw [renewals_release, counted]
          split <;> omega

end Arena

end Lanewise
