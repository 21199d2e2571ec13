import Lanewise.Context
import Mathlib.Data.Finset.Card
import Mathlib.Data.List.Sort
import Mathlib.Data.Prod.Lex
import Mathlib.Data.String.Basic

namespace Lanewise

namespace Ascending

variable {β γ : Type} [DecidableEq β] [LinearOrder γ] {key : β → γ} {a b : β} {list : List β}

def insert (key : β → γ) (b : β) : List β → List β
  | [] => [b]
  | head :: rest =>
      if b = head then head :: rest
      else if key b < key head then b :: head :: rest
      else head :: insert key b rest

def setOf (key : β → γ) (elements : List β) : List β :=
  elements.foldl (fun set b => insert key b set) []

theorem mem_insert : a ∈ insert key b list ↔ a = b ∨ a ∈ list := by
  induction list with
  | nil => simp [insert]
  | cons head rest ih =>
      rw [insert]
      split
      · rename_i same
        simp [same]
      · split
        · exact List.mem_cons
        · rw [List.mem_cons, ih, List.mem_cons, or_left_comm]

theorem pairwise_insert (injective : Function.Injective key)
    (ascends : list.Pairwise fun a b => key a < key b) :
    (insert key b list).Pairwise fun a b => key a < key b := by
  induction list with
  | nil => simp [insert]
  | cons head rest ih =>
      obtain ⟨least, ascends'⟩ := List.pairwise_cons.1 ascends
      rw [insert]
      split
      · exact ascends
      · rename_i different
        split
        · rename_i below
          refine List.pairwise_cons.2 ⟨fun a member => ?_, ascends⟩
          rcases List.mem_cons.1 member with rfl | member
          · exact below
          · exact below.trans (least a member)
        · rename_i above
          refine List.pairwise_cons.2 ⟨fun a member => ?_, ih ascends'⟩
          rcases mem_insert.1 member with rfl | member
          · exact lt_of_le_of_ne (not_lt.1 above) fun same => different (injective same).symm
          · exact least a member

theorem mem_foldl_insert (elements : List β) :
    a ∈ elements.foldl (fun set b => insert key b set) list ↔ a ∈ list ∨ a ∈ elements := by
  induction elements generalizing list with
  | nil => simp
  | cons b elements ih =>
      rw [List.foldl_cons, ih, mem_insert, List.mem_cons, or_right_comm, or_comm]

theorem pairwise_foldl_insert (injective : Function.Injective key) (elements : List β)
    (ascends : list.Pairwise fun a b => key a < key b) :
    (elements.foldl (fun set b => insert key b set) list).Pairwise fun a b => key a < key b := by
  induction elements generalizing list with
  | nil => exact ascends
  | cons b elements ih => exact ih (pairwise_insert injective ascends)

theorem mem_setOf {elements : List β} : a ∈ setOf key elements ↔ a ∈ elements := by
  simp [setOf, mem_foldl_insert]

theorem pairwise_setOf (injective : Function.Injective key) (elements : List β) :
    (setOf key elements).Pairwise fun a b => key a < key b :=
  pairwise_foldl_insert injective elements .nil

theorem nodup_setOf (injective : Function.Injective key) (elements : List β) :
    (setOf key elements).Nodup :=
  (pairwise_setOf injective elements).imp fun below same => below.ne (congrArg key same)

theorem setOf_congr (injective : Function.Injective key) {elements others : List β}
    (same : ∀ b, b ∈ elements ↔ b ∈ others) : setOf key elements = setOf key others := by
  have : Std.Antisymm fun a b : β => key a < key b :=
    ⟨fun _ _ below above => absurd (below.trans above) (lt_irrefl _)⟩
  have : Std.Irrefl fun a b : β => key a < key b := ⟨fun _ => lt_irrefl _⟩
  refine (pairwise_setOf injective elements).eq_of_mem_iff (pairwise_setOf injective others) ?_
  intro b
  rw [mem_setOf, mem_setOf, same]

theorem length_setOf (injective : Function.Injective key) (elements : List β) :
    (setOf key elements).length = elements.toFinset.card := by
  rw [← List.toFinset_card_of_nodup (nodup_setOf injective elements)]
  congr 1
  ext b
  rw [List.mem_toFinset, List.mem_toFinset, mem_setOf]

end Ascending

theorem Stage.toNat_injective : Function.Injective UInt32.toNat := fun _ _ => UInt32.toNat_inj.1

theorem Stage.insert_eq (stage : UInt32) (stages : List UInt32) :
    Stage.insert stage stages = Ascending.insert UInt32.toNat stage stages := by
  induction stages with
  | nil => rfl
  | cons head rest ih =>
      rw [Stage.insert, Ascending.insert, ih]
      by_cases same : stage = head
      · simp [same]
      · simp only [same, if_false, UInt32.lt_iff_toNat_lt]

theorem Stage.foldl_insert (stages : List UInt32) :
    stages.foldl (fun set stage => Stage.insert stage set) [] =
      Ascending.setOf UInt32.toNat stages := by
  simp only [Stage.insert_eq, Ascending.setOf]

def FileLine.key (line : FileLine) : ℕ ×ₗ String := toLex (line.1.toNat, line.2)

theorem FileLine.key_injective : Function.Injective FileLine.key := by
  intro first second same
  obtain ⟨lines, files⟩ := Prod.mk.inj (toLex_inj.1 same)
  exact Prod.ext (UInt32.toNat_inj.1 lines) files

theorem FileLine.before_iff {first second : FileLine} :
    FileLine.before first second ↔ first.key < second.key := by
  simp [FileLine.before, FileLine.key, Prod.Lex.toLex_lt_toLex, UInt32.lt_iff_toNat_lt,
    UInt32.toNat_inj]

namespace SilencedLines

theorem insertLine_eq (line : FileLine) (lines : List FileLine) :
    insertLine line lines = Ascending.insert FileLine.key line lines := by
  induction lines with
  | nil => rfl
  | cons head rest ih => simp only [insertLine, Ascending.insert, FileLine.before_iff, ih]

theorem foldl_insert (lines : List FileLine) :
    lines.foldl (fun set line => set.insert line.1 line.2) empty =
      ⟨Ascending.setOf FileLine.key lines⟩ := by
  have step (set : List FileLine) (line : FileLine) :
      SilencedLines.insert ⟨set⟩ line.1 line.2 = ⟨Ascending.insert FileLine.key line set⟩ := by
    rw [SilencedLines.insert, insertLine_eq]
  exact List.foldl_hom SilencedLines.mk step

end SilencedLines

end Lanewise
