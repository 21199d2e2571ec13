import Lanewise.Proofs.Arena.History
import Mathlib.Algebra.Group.Nat.Defs

namespace Lanewise

namespace Arena

variable {κ α : Type} [DecidableEq κ] [Hashable κ]

def nextId (history : List (Op κ α)) (kind : κ) : ObjectId κ where
  kind
  index := (pending history).countP (·.1 = kind)
  epoch := .ofNat (renewals history)

theorem step_register (before : List (Op κ α)) (kind : κ) (object : α) :
    ((after before).step (.register kind object)).1 = .registered (nextId before kind) := by
  have id := (holds_after before).register_id kind object
  rw [epoch_after] at id
  simp only [step, id, nextId]

theorem registration_of_answer {history : List (Op κ α)} {i : Nat} {id : ObjectId κ}
    (answered : (answers history)[i]? = some (.registered id)) :
    ∃ before kind object rest, history = before ++ .register kind object :: rest ∧
      before.length = i ∧ id = nextId before kind := by
  have inside : i < history.length := by
    rw [← length_run (empty : Arena κ α) history]
    exact (List.getElem?_eq_some_iff.1 answered).1
  have split : history = history.take i ++ history[i] :: history.drop (i + 1) := by simp
  have position : (history.take i).length = i := by simp [Nat.le_of_lt inside]
  have given := answer_at (history.take i) (history.drop (i + 1)) history[i]
  rw [← split, position, answered, Option.some.injEq] at given
  cases op : history[i] with
  | register kind object =>
      rw [op, step_register, Answer.registered.injEq] at given
      exact ⟨_, kind, object, _, op ▸ split, position, given⟩
  | release =>
      rw [op] at given
      cases given

theorem get?_nextId (before middle : List (Op κ α)) (kind : κ) (object : α)
    (keeps : .release ∉ middle) :
    (after (before ++ .register kind object :: middle)).get? (nextId before kind) =
      some object := by
  have keeps' : .release ∉ Op.register kind object :: middle := by simpa using keeps
  have holds := holds_after (before ++ .register kind object :: middle)
  rw [holds.get?, epoch_after, renewals_append _ _ keeps', pending_append _ _ keeps']
  have place : ((pending before).filter (·.1 = kind)).length =
      (pending before).countP (·.1 = kind) := (List.countP_eq_length_filter ..).symm
  simp [nextId, registered, Op.object?, ← place]

theorem renewals_lt (before middle : List (Op κ α)) (kind : κ) (object : α)
    (released : .release ∈ middle) :
    renewals before < renewals (before ++ .register kind object :: middle) := by
  obtain ⟨kept, later, rfl, keeps⟩ := List.eq_append_cons_of_mem released
  have keeps' : .release ∉ Op.register kind object :: kept := by simpa using keeps
  have waiting : pending (before ++ .register kind object :: kept) ≠ [] := by
    rw [pending_append _ _ keeps']
    simp [registered, Op.object?]
  calc renewals before
      = renewals (before ++ .register kind object :: kept) := (renewals_append _ _ keeps').symm
    _ < renewals (before ++ .register kind object :: kept ++ [.release]) := by
        rw [renewals_release, if_neg waiting]
        exact Nat.lt_succ_self _
    _ ≤ renewals (before ++ .register kind object :: kept ++ [.release] ++ later) :=
        renewals_le_append _ _
    _ = renewals (before ++ .register kind object :: (kept ++ .release :: later)) := by simp

theorem epoch_ne {earlier later : Nat} (lt : earlier < later) (bounded : later < 2 ^ 64) :
    UInt64.ofNat earlier ≠ UInt64.ofNat later := by
  intro same
  have values := congrArg UInt64.toNat same
  rw [UInt64.toNat_ofNat_of_lt' (Nat.lt_trans lt bounded),
    UInt64.toNat_ofNat_of_lt' bounded] at values
  exact absurd values (Nat.ne_of_lt lt)

theorem get?_nextId_released (before middle : List (Op κ α)) (kind : κ) (object : α)
    (released : .release ∈ middle)
    (bounded : renewals (before ++ .register kind object :: middle) < 2 ^ 64) :
    (after (before ++ .register kind object :: middle)).get? (nextId before kind) = none := by
  have stale := epoch_ne (renewals_lt before middle kind object released) bounded
  rw [(holds_after _).get?, epoch_after]
  exact if_neg stale

theorem nextId_ne (before middle : List (Op κ α)) (kind other : κ) (object : α)
    (bounded : renewals (before ++ .register kind object :: middle) < 2 ^ 64) :
    nextId before kind ≠ nextId (before ++ .register kind object :: middle) other := by
  intro same
  obtain ⟨kinds, indices, epochs⟩ := ObjectId.mk.inj same
  by_cases released : .release ∈ middle
  · exact epoch_ne (renewals_lt before middle kind object released) bounded epochs
  · have keeps : .release ∉ Op.register kind object :: middle := by simpa using released
    rw [pending_append _ _ keeps, ← kinds] at indices
    simp [registered, Op.object?] at indices

theorem renewals_le_releases_append (before after : List (Op κ α)) :
    renewals before ≤ (before ++ after).countP Op.isRelease :=
  Nat.le_trans (renewals_le_append before after) (renewals_le_releases _)

theorem answer_ne_of_lt {history : List (Op κ α)} {i j : Nat} {id : ObjectId κ}
    (bounded : history.countP Op.isRelease < 2 ^ 64) (lt : i < j)
    (first : (answers history)[i]? = some (.registered id)) :
    (answers history)[j]? ≠ some (.registered id) := by
  intro second
  obtain ⟨before, kind, object, rest, split, rfl, given⟩ := registration_of_answer first
  obtain ⟨start, other, object', rest', split', rfl, given'⟩ := registration_of_answer second
  have early : before ++ [.register kind object] <+: history := ⟨rest, by simp [split]⟩
  have late : start <+: history := ⟨_, split'.symm⟩
  have shorter : (before ++ [Op.register kind object]).length ≤ start.length := by
    simpa using Nat.succ_le_of_lt lt
  -- The earlier registration lies before the later one, so the later id is a fresh one.
  obtain ⟨middle, rfl⟩ := List.prefix_of_prefix_length_le early late shorter
  rw [List.append_assoc, List.singleton_append] at given'
  rw [List.append_assoc before, List.singleton_append] at split'
  have fresh := nextId_ne before middle kind other object
    (Nat.lt_of_le_of_lt (renewals_le_releases_append _ _) (split' ▸ bounded))
  exact fresh (given.symm.trans given')

theorem ids_resolve (history : List (Op κ α)) (bounded : history.countP Op.isRelease < 2 ^ 64) :
    (∀ before kind object rest, history = before ++ .register kind object :: rest →
      ∃ id, (answers history)[before.length]? = some (.registered id) ∧
        id.kind = kind ∧
        id.index = (pending before).countP (·.1 = kind) ∧
        id.epoch.toNat = renewals before ∧
        ∀ middle later, rest = middle ++ later →
          (.release ∉ middle →
            (after (before ++ .register kind object :: middle)).get? id = some object) ∧
          (.release ∈ middle →
            (after (before ++ .register kind object :: middle)).get? id = none)) ∧
    ∀ (i j : Nat) (id : ObjectId κ), (answers history)[i]? = some (.registered id) →
      (answers history)[j]? = some (.registered id) → i = j := by
  have bound (start rest : List (Op κ α)) (split : history = start ++ rest) :
      renewals start < 2 ^ 64 :=
    Nat.lt_of_le_of_lt (renewals_le_releases_append start rest) (split ▸ bounded)
  constructor
  · rintro before kind object rest rfl
    refine ⟨nextId before kind, ?_, rfl, rfl, ?_, ?_⟩
    · rw [answer_at, step_register]
    · exact UInt64.toNat_ofNat_of_lt' (bound before _ rfl)
    · rintro middle later rfl
      refine ⟨get?_nextId before middle kind object, fun released => ?_⟩
      exact get?_nextId_released before middle kind object released (bound _ later (by simp))
  · intro i j id first second
    rcases Nat.lt_trichotomy i j with lt | same | gt
    · exact absurd second (answer_ne_of_lt bounded lt first)
    · exact same
    · exact absurd first (answer_ne_of_lt bounded gt second)

/-- A position is taken again after a release, its id is not. -/
theorem ids_resolve_reused :
    let history : List (Op Bool Nat) := [.register true 1, .release, .register true 3]
    history.countP Op.isRelease < 2 ^ 64 ∧
    ∃ old new : ObjectId Bool, (answers history)[0]? = some (.registered old) ∧
      (answers history)[2]? = some (.registered new) ∧ old.index = new.index ∧ old ≠ new ∧
      (after history).get? old = none ∧ (after history).get? new = some 3 := by
  intro history
  have bounded : history.countP Op.isRelease < 2 ^ 64 := by decide
  obtain ⟨given, unique⟩ := ids_resolve history bounded
  obtain ⟨old, first, -, oldIndex, -, stale⟩ := given [] true 1 _ rfl
  obtain ⟨new, second, -, newIndex, -, live⟩ :=
    given [.register true 1, .release] true 3 _ rfl
  refine ⟨bounded, old, new, first, second, by rw [oldIndex, newIndex]; rfl, ?_, ?_, ?_⟩
  · rintro rfl
    exact absurd (unique 0 2 old first second) (by decide)
  · exact (stale [.release, .register true 3] [] rfl).2 (by simp)
  · exact (live [] [] rfl).1 (by simp)

end Arena

end Lanewise
