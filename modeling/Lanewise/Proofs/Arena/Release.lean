import Lanewise.Proofs.Arena.History

namespace Lanewise

namespace Arena

variable {κ α : Type} [DecidableEq κ] [Hashable κ]

theorem step_release (before : List (Op κ α)) :
    ((after before).step .release).1 = .released (byKind (pending before)) := by
  simp only [step, (holds_after before).drain]

theorem answer_release (before rest : List (Op κ α)) :
    (answers (before ++ .release :: rest))[before.length]? =
      some (.released (byKind (pending before))) := by
  rw [answer_at, step_release]

theorem destroyed_perm (history : List (Op κ α)) :
    ((answers history).flatMap Answer.destroyed ++ pending history).Perm (registered history) := by
  induction history using List.reverseRecOn with
  | nil => exact List.Perm.refl _
  | append_singleton history op ih =>
      rw [answers_concat, pending_concat, List.flatMap_append, registered, List.filterMap_append,
        ← registered]
      cases op with
      | register kind object =>
          rw [show [((after history).step (.register kind object)).1].flatMap Answer.destroyed = []
            from rfl, List.append_nil, Op.pend, ← List.append_assoc]
          exact ih.append_right _
      | release =>
          rw [step_release, Op.pend, List.append_nil, List.flatMap_singleton, Answer.destroyed,
            show [Op.release].filterMap (Op.object? (κ := κ) (α := α)) = [] from rfl,
            List.append_nil]
          exact ((byKind_perm (pending history)).append_left _).trans ih

theorem objects_released_once (history : List (Op κ α)) :
    (∀ before rest, history = before ++ .release :: rest →
      ∃ objects, (answers history)[before.length]? = some (.released objects) ∧
        objects = byKind (pending before) ∧ objects.Perm (pending before)) ∧
    (after history).drain.1 = byKind (pending history) ∧
    ((answers history).flatMap Answer.destroyed ++ (after history).drain.1).Perm
      (registered history) ∧
    (∀ before kind object middle, .release ∉ middle →
      (∀ rest, history = before ++ .register kind object :: middle ++ .release :: rest →
        ∃ objects, (answers history)[before.length + middle.length + 1]? =
          some (.released objects) ∧ (kind, object) ∈ objects) ∧
      (history = before ++ .register kind object :: middle →
        (kind, object) ∈ (after history).drain.1)) ∧
    (pending history = [] → (after history).drain = ([], after history)) := by
  have dropped : (after history).drain.1 = byKind (pending history) :=
    congrArg Prod.fst (holds_after history).drain
  refine ⟨?_, dropped, ?_, ?_, ?_⟩
  · rintro before rest rfl
    exact ⟨_, answer_release before rest, rfl, byKind_perm _⟩
  · rw [dropped]
    exact ((byKind_perm (pending history)).append_left _).trans (destroyed_perm history)
  · intro before kind object middle keeps
    have waiting := mem_pending before middle kind object keeps
    constructor
    · rintro rest rfl
      have given := answer_release (before ++ .register kind object :: middle) rest
      refine ⟨_, ?_, (byKind_perm _).mem_iff.2 waiting⟩
      simpa [Nat.add_assoc] using given
    · rintro rfl
      rw [dropped]
      exact (byKind_perm _).mem_iff.2 waiting
  · intro nothing
    exact (nothing ▸ holds_after history).drain_nil

end Arena

end Lanewise
