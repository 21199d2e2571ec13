import Lanewise.Target.Basic
import Mathlib.Data.List.Forall2

namespace Lanewise

variable {ε δ α β : Type}

@[simp] theorem ok_bind (value : α) (next : α → Except ε β) :
    (Except.ok value >>= next) = next value := rfl

theorem bind_eq_ok {first : Except ε α} {next : α → Except ε β} {result : β} :
    (first >>= next) = .ok result ↔ ∃ value, first = .ok value ∧ next value = .ok result := by
  cases first with
  | error failure => simp [bind, Except.bind]
  | ok value => simp [bind, Except.bind]

theorem bind_eq_error {first : Except ε α} {next : α → Except ε β} {failure : ε} :
    (first >>= next) = .error failure ↔
      first = .error failure ∨ ∃ value, first = .ok value ∧ next value = .error failure := by
  cases first with
  | error other => simp [bind, Except.bind]
  | ok value => simp [bind, Except.bind]

@[simp] theorem pure_eq_ok {value result : α} :
    (pure value : Except ε α) = .ok result ↔ value = result := by
  simp [pure, Except.pure]

@[simp] theorem pure_ne_error {value : α} {failure : ε} :
    (pure value : Except ε α) ≠ .error failure := by
  simp [pure, Except.pure]

theorem require_eq_ok {condition : Bool} {failure : ε} {done : Unit} :
    require condition failure = .ok done ↔ condition := by
  cases condition <;> simp [require]

theorem require_eq_error {condition : Bool} {failure other : ε} :
    require condition failure = .error other ↔ ¬condition ∧ failure = other := by
  cases condition <;> simp [require]

theorem orFail_eq_error {failure other : ε} {value : Option α} :
    orFail failure value = .error other ↔ value = none ∧ failure = other := by
  cases value <;> simp [orFail]

@[simp] theorem mapError_ok (value : α) (wrap : ε → δ) :
    (Except.ok value).mapError wrap = .ok value := rfl

@[simp] theorem mapError_error (failure : ε) (wrap : ε → δ) :
    (Except.error failure : Except ε α).mapError wrap = .error (wrap failure) := rfl

theorem mapError_eq_ok {outcome : Except ε α} {wrap : ε → δ} {value : α} :
    outcome.mapError wrap = .ok value ↔ outcome = .ok value := by
  cases outcome <;> simp

theorem mapError_eq_error {outcome : Except ε α} {wrap : ε → δ} {failure : δ} :
    outcome.mapError wrap = .error failure ↔
      ∃ cause, outcome = .error cause ∧ wrap cause = failure := by
  cases outcome <;> simp

theorem map_eq_ok {outcome : Except ε α} {next : α → β} {value : β} :
    outcome.map next = .ok value ↔ ∃ before, outcome = .ok before ∧ next before = value := by
  cases outcome <;> simp [Except.map]

theorem map_eq_error {outcome : Except ε α} {next : α → β} {failure : ε} :
    outcome.map next = .error failure ↔ outcome = .error failure := by
  cases outcome <;> simp [Except.map]

theorem isOk_iff {outcome : Except ε α} : outcome.isOk ↔ ∃ value, outcome = .ok value := by
  cases outcome <;> simp [Except.isOk, Except.toBool]

theorem elim_eq_ok {found : Option β} {outcome : Except ε α} {fault : β → ε} {value : α} :
    (found.elim outcome fun item => .error (fault item)) = .ok value ↔
      found = none ∧ outcome = .ok value := by
  cases found <;> simp

theorem elim_eq_error {found : Option β} {outcome : Except ε α} {fault : β → ε} {failure : ε} :
    (found.elim outcome fun item => .error (fault item)) = .error failure ↔
      (∃ item, found = some item ∧ fault item = failure) ∨
        found = none ∧ outcome = .error failure := by
  cases found <;> simp

theorem foldlM_placed {σ : Type} (place : σ → α) (add : σ → β → σ) {step : α → β → Except ε α}
    (step_place : ∀ collected item, step (place collected) item = .ok (place (add collected item)))
    (items : List β) (collected : σ) :
    items.foldlM step (place collected) = .ok (place (items.foldl add collected)) := by
  induction items generalizing collected with
  | nil => rfl
  | cons item items ih =>
      rw [List.foldlM_cons, step_place]
      exact ih (add collected item)

/-- A loop that checks its elements one after the other and collects them in one place. Whatever it
passes on is `place` of what it has collected, so it needs no invariant. -/
theorem foldlM_checked {σ : Type} (place : σ → α) (add : σ → β → σ) (rejects : β → Bool)
    (fault : β → ε) {step : α → β → Except ε α}
    (step_place : ∀ collected item, step (place collected) item =
      if rejects item then .error (fault item) else .ok (place (add collected item)))
    (items : List β) (collected : σ) :
    items.foldlM step (place collected) =
      (items.find? rejects).elim (.ok (place (items.foldl add collected)))
        fun item => .error (fault item) := by
  induction items generalizing collected with
  | nil => rfl
  | cons item items ih =>
      rw [List.foldlM_cons, step_place, List.find?_cons, List.foldl_cons]
      cases rejected : rejects item with
      | false => exact ih (add collected item)
      | true => rfl

theorem mapM_eq_ok {read : α → Except ε β} {items : List α} {values : List β} :
    items.mapM read = .ok values ↔
      List.Forall₂ (fun item value => read item = .ok value) items values := by
  induction items generalizing values with
  | nil => rw [List.mapM_nil, pure_eq_ok, List.forall₂_nil_left_iff, eq_comm]
  | cons item items ih =>
      simp only [List.mapM_cons, bind_eq_ok, pure_eq_ok, ih]
      constructor
      · rintro ⟨value, first, rest, later, rfl⟩
        exact .cons first later
      · rintro (_ | ⟨first, later⟩)
        exact ⟨_, first, _, later, rfl⟩

theorem exists_mapM_eq_ok {read : α → Except ε β} {items : List α} :
    (∃ values, items.mapM read = .ok values) ↔ ∀ item ∈ items, ∃ value, read item = .ok value := by
  induction items with
  | nil => exact iff_of_true ⟨[], rfl⟩ (by simp)
  | cons item items ih =>
      rw [List.forall_mem_cons, ← ih]
      simp only [List.mapM_cons, bind_eq_ok, pure_eq_ok]
      constructor
      · rintro ⟨_, value, first, rest, later, -⟩
        exact ⟨⟨value, first⟩, rest, later⟩
      · rintro ⟨⟨value, first⟩, rest, later⟩
        exact ⟨_, value, first, rest, later, rfl⟩

theorem mapM_eq_error {read : α → Except ε β} {items : List α} {failure : ε} :
    items.mapM read = .error failure ↔ ∃ before item after, items = before ++ item :: after ∧
      (∀ earlier ∈ before, ∃ value, read earlier = .ok value) ∧ read item = .error failure := by
  induction items with
  | nil => simp [List.mapM_nil]
  | cons first items ih =>
      simp only [List.mapM_cons, bind_eq_error, pure_ne_error, and_false, exists_false, or_false,
        ih]
      constructor
      · rintro (fails | ⟨value, passes, before, item, after, rfl, passed, fails⟩)
        · exact ⟨[], first, items, rfl, by simp, fails⟩
        · exact ⟨first :: before, item, after, rfl,
            List.forall_mem_cons.2 ⟨⟨value, passes⟩, passed⟩, fails⟩
      · rintro ⟨_ | ⟨earlier, before⟩, item, after, split, passed, fails⟩
        · cases split
          exact .inl fails
        · cases split
          obtain ⟨⟨value, passes⟩, passed⟩ := List.forall_mem_cons.1 passed
          exact .inr ⟨value, passes, before, item, after, rfl, passed, fails⟩

end Lanewise
