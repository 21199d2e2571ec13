import Mathlib.Data.List.Basic

namespace Lanewise

theorem foldl_latest {σ α β : Type} {held : σ → Option β} {tells? : α → Option β}
    {step : σ → α → σ}
    (held_step : ∀ state item, held (step state item) = (tells? item).or (held state))
    (items : List α) (state : σ) :
    held (items.foldl step state) = (items.filterMap tells?).getLast?.or (held state) := by
  induction items generalizing state with
  | nil => rfl
  | cons item items ih =>
      -- The rest has the last word, and this item counts where the rest is silent.
      rw [List.foldl_cons, ih, held_step, List.filterMap_cons]
      cases tells? item with
      | none => rfl
      | some value =>
          rw [List.getLast?_cons]
          cases (items.filterMap tells?).getLast? <;> rfl

end Lanewise
