import Lanewise.Source
import Mathlib.Data.List.Basic
import Mathlib.Data.Prod.Lex
import Mathlib.Order.MinMax

namespace Lanewise

namespace Place

variable {a b : Place}

def key (place : Place) : ℕ ×ₗ ℕ := toLex (place.line.toNat, place.column.toNat)

theorem key_injective : Function.Injective key := by
  rintro ⟨line, column⟩ ⟨line', column'⟩ same
  obtain ⟨lines, columns⟩ := Prod.mk.inj (toLex_inj.1 same)
  obtain rfl : line = line' := UInt32.toNat_inj.1 lines
  obtain rfl : column = column' := UInt32.toNat_inj.1 columns
  rfl

instance : LinearOrder Place := LinearOrder.lift' key key_injective

theorem le_iff : a ≤ b ↔ a.line < b.line ∨ a.line = b.line ∧ a.column ≤ b.column := by
  have keys : a ≤ b ↔ a.line.toNat < b.line.toNat ∨
      a.line.toNat = b.line.toNat ∧ a.column.toNat ≤ b.column.toNat := Prod.Lex.toLex_le_toLex
  rw [keys, UInt32.lt_iff_toNat_lt, UInt32.le_iff_toNat_le, UInt32.toNat_inj]

theorem le_eq_true_iff : a.le b ↔ a ≤ b := by
  simp [le, le_iff]

theorem earlier_eq_min (a b : Place) : a.earlier b = min a b := by
  rw [earlier, min_def]
  exact if_congr le_eq_true_iff rfl rfl

theorem later_eq_max (a b : Place) : a.later b = max a b := by
  rw [later, max_def]
  exact if_congr le_eq_true_iff rfl rfl

end Place

namespace Span

variable {a b c outer : Span}

theorem union_eq (a b : Span) : a.union b = ⟨a.file, min a.first b.first, max a.last b.last⟩ := by
  rw [union, Place.earlier_eq_min, Place.later_eq_max]

theorem union_self (a : Span) : a.union a = a := by
  rw [union_eq, min_self, max_self]

theorem union_assoc (a b c : Span) : (a.union b).union c = a.union (b.union c) := by
  simp only [union_eq, min_assoc, max_assoc]

theorem union_comm (a b : Span) : b.union a = { a.union b with file := b.file } := by
  simp only [union_eq, min_comm, max_comm]

structure Covers (outer inner : Span) : Prop where
  first : outer.first ≤ inner.first
  last : inner.last ≤ outer.last

theorem Covers.refl (a : Span) : a.Covers a := ⟨le_rfl, le_rfl⟩

theorem covers_union_iff : outer.Covers (a.union b) ↔ outer.Covers a ∧ outer.Covers b := by
  rw [union_eq]
  constructor
  · rintro ⟨first, last⟩
    obtain ⟨firstA, firstB⟩ := le_min_iff.1 first
    obtain ⟨lastA, lastB⟩ := max_le_iff.1 last
    exact ⟨⟨firstA, lastA⟩, ⟨firstB, lastB⟩⟩
  · rintro ⟨coversA, coversB⟩
    exact ⟨le_min coversA.first coversB.first, max_le coversA.last coversB.last⟩

theorem Covers.antisymm (covers : a.Covers b) (covered : b.Covers a) (file : a.file = b.file) :
    a = b := by
  have first : a.first = b.first := le_antisymm covers.first covered.first
  have last : a.last = b.last := le_antisymm covered.last covers.last
  cases a
  cases b
  simp only at file first last
  rw [file, first, last]

inductive Grouping where
  | one (span : Span)
  | both (left right : Grouping)

namespace Grouping

variable {grouping other : Grouping} {file : String}

def spans : Grouping → List Span
  | one span => [span]
  | both left right => left.spans ++ right.spans

def union : Grouping → Span
  | one span => span
  | both left right => left.union.union right.union

theorem covers_union_iff :
    outer.Covers grouping.union ↔ ∀ span ∈ grouping.spans, outer.Covers span := by
  induction grouping with
  | one span => simp [union, spans]
  | both left right leftCovers rightCovers =>
      rw [union, spans, Span.covers_union_iff, leftCovers, rightCovers, List.forall_mem_append]

theorem file_union (shared : ∀ span ∈ grouping.spans, span.file = file) :
    grouping.union.file = file := by
  induction grouping with
  | one span => exact shared span (List.mem_singleton_self span)
  | both left right leftFile _ =>
      rw [spans, List.forall_mem_append] at shared
      exact leftFile shared.1

theorem union_congr (shared : ∀ span ∈ grouping.spans, span.file = file)
    (same : ∀ span, span ∈ grouping.spans ↔ span ∈ other.spans) :
    grouping.union = other.union := by
  have parts := covers_union_iff.1 (Covers.refl grouping.union)
  have parts' := covers_union_iff.1 (Covers.refl other.union)
  apply Covers.antisymm
  · exact covers_union_iff.2 fun span member => parts span ((same span).2 member)
  · exact covers_union_iff.2 fun span member => parts' span ((same span).1 member)
  · rw [file_union shared, file_union fun span member => shared span ((same span).2 member)]

end Grouping

theorem union_least (a b c : Span) :
    a.union a = a ∧
    (a.union b).union c = a.union (b.union c) ∧
    b.union a = { a.union b with file := b.file } ∧
    (a.union b).Covers a ∧
    (a.union b).Covers b ∧
    (∀ outer : Span, outer.Covers a → outer.Covers b → outer.Covers (a.union b)) ∧
    ∀ (grouping other : Grouping) (file : String), (∀ span ∈ grouping.spans, span.file = file) →
      (∀ span, span ∈ grouping.spans ↔ span ∈ other.spans) → grouping.union = other.union := by
  obtain ⟨coversA, coversB⟩ := covers_union_iff.1 (Covers.refl (a.union b))
  refine ⟨union_self a, union_assoc a b c, union_comm a b, coversA, coversB, ?_, ?_⟩
  · exact fun outer first second => covers_union_iff.2 ⟨first, second⟩
  · exact fun grouping other file shared same => Grouping.union_congr shared same

example : (⟨"a.lane", ⟨3, 5⟩, ⟨3, 9⟩⟩ : Span).union ⟨"a.lane", ⟨2, 7⟩, ⟨4, 1⟩⟩ =
    ⟨"a.lane", ⟨2, 7⟩, ⟨4, 1⟩⟩ := by
  decide

end Span

end Lanewise
