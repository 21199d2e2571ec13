import Lanewise.Proofs.DataLayout.AlignTable
import Lanewise.Proofs.DataLayout.Grammar

namespace Lanewise

variable {sized aligned : UInt32 → Prop}

def LayoutSpec.Within (sized aligned : UInt32 → Prop) : LayoutSpec → Prop
  | .pointer bits align => sized bits ∧ aligned align
  | .intAlign _ align | .floatAlign _ align => aligned align
  | .endian _ | .nativeInts _ | .stack _ | .other => True

theorem AlignTable.forall_mem_insert {table : AlignTable} {width align : UInt32}
    (listed : ∀ entry ∈ table, aligned entry.2) (stated : aligned align) :
    ∀ entry ∈ table.insert width align, aligned entry.2 := by
  intro entry member
  rcases mem_insert member with rfl | earlier
  · exact stated
  · exact listed entry earlier

namespace DataLayout

open LayoutSpec (Reads)

variable {text : String} {layout : DataLayout} {width : UInt32}

structure Within (sized aligned : UInt32 → Prop) (layout : DataLayout) : Prop where
  size : sized layout.pointerBits
  pointer : aligned layout.pointerAlign
  integers : ∀ entry ∈ layout.intAlign, aligned entry.2
  floats : ∀ entry ∈ layout.floatAlign, aligned entry.2

def initialAligns : List UInt32 := [8, 16, 32, 64, 128]

theorem forall_initialAligns_iff : (∀ align ∈ initialAligns, aligned align) ↔
    aligned 8 ∧ aligned 16 ∧ aligned 32 ∧ aligned 64 ∧ aligned 128 := by
  simp [initialAligns]

theorem within_initial (size : sized 64) (own : ∀ align ∈ initialAligns, aligned align)
    (text : String) : Within sized aligned { source := text } := by
  rw [forall_initialAligns_iff] at own
  exact ⟨size, own.2.2.2.1, by simp [own], by simp [own]⟩

theorem Within.apply (within : layout.Within sized aligned) {spec : LayoutSpec}
    (states : spec.Within sized aligned) : (layout.apply spec).Within sized aligned := by
  obtain ⟨size, pointer, integers, floats⟩ := within
  cases spec with
  | pointer bits align => exact ⟨states.1, states.2, integers, floats⟩
  | intAlign width align =>
      exact ⟨size, pointer, AlignTable.forall_mem_insert integers states, floats⟩
  | floatAlign width align =>
      exact ⟨size, pointer, integers, AlignTable.forall_mem_insert floats states⟩
  | _ => exact ⟨size, pointer, integers, floats⟩

theorem Within.foldl (within : layout.Within sized aligned) {given : List (List Char)}
    {specs : List LayoutSpec} (reads : List.Forall₂ Reads given specs)
    (states : ∀ piece ∈ given, ∀ spec, Reads piece spec → spec.Within sized aligned) :
    (specs.foldl DataLayout.apply layout).Within sized aligned := by
  induction reads generalizing layout with
  | nil => exact within
  | cons read _ ih =>
      obtain ⟨first, later⟩ := List.forall_mem_cons.1 states
      exact ih (within.apply (first _ read)) later

theorem within_of_parse (size : sized 64) (own : ∀ align ∈ initialAligns, aligned align)
    (parsed : parse text = .ok layout)
    (states : ∀ piece ∈ pieces text, ∀ spec, Reads piece spec → spec.Within sized aligned) :
    layout.Within sized aligned := by
  obtain ⟨specs, reads, rfl⟩ := parse_eq_ok_iff.1 parsed
  exact (within_initial size own text).foldl reads states

theorem Within.integerAlign (within : layout.Within sized aligned) (own : aligned width) :
    aligned (layout.integerAlign width) := by
  rw [DataLayout.integerAlign, AlignTable.ceiling?]
  cases found : layout.intAlign.find? fun entry => width ≤ entry.1 with
  | none => exact own
  | some entry => exact within.integers entry (List.mem_of_find?_eq_some found)

theorem Within.floatAlign (within : layout.Within sized aligned) (own : aligned width) :
    aligned ((layout.floatAlign.get? width).getD width) := by
  cases found : layout.floatAlign.get? width with
  | none => exact own
  | some align => exact within.floats (width, align) (AlignTable.mem_of_get? found)

theorem Within.alignBits (within : layout.Within sized aligned)
    (own : ∀ align ∈ initialAligns, aligned align) (scalar : Scalar) :
    aligned (layout.alignBits scalar) := by
  cases scalar with
  | bool | i8 => exact within.integerAlign (own 8 (by decide))
  | i16 => exact within.integerAlign (own 16 (by decide))
  | i32 => exact within.integerAlign (own 32 (by decide))
  | i64 => exact within.integerAlign (own 64 (by decide))
  | f16 => exact within.floatAlign (own 16 (by decide))
  | f32 => exact within.floatAlign (own 32 (by decide))
  | f64 => exact within.floatAlign (own 64 (by decide))
  | ptr => exact within.pointer

end DataLayout

end Lanewise
