import Lanewise.Proofs.DataLayout.Numbers
import Lanewise.Proofs.DataLayout.Placement

namespace Lanewise

def FillsBytes (bits : UInt32) : Prop := 8 ∣ bits.toNat

instance (bits : UInt32) : Decidable (FillsBytes bits) := inferInstanceAs (Decidable (8 ∣ _))

/-- An alignment in bits that a number of bytes can grant: one of whole bytes, or one that every
byte has. -/
def ByteAligned (align : UInt32) : Prop := FillsBytes align ∨ align.toNat < 8

instance (align : UInt32) : Decidable (ByteAligned align) := inferInstanceAs (Decidable (_ ∨ _))

namespace DataLayout

open LayoutSpec (Reads)

variable {text : String} {layout : DataLayout} {fields : List Scalar}

structure Faithful (layout : DataLayout) : Prop where
  pointer : layout.pointerBits.toNat ≤ 8 * layout.sizeOf .ptr
  aligned : ∀ scalar, (layout.alignBits scalar).toNat ≤ 8 * layout.alignOf scalar

theorem pointerBits_le_iff :
    layout.pointerBits.toNat ≤ 8 * layout.sizeOf .ptr ↔ FillsBytes layout.pointerBits := by
  rw [sizeOf, FillsBytes]
  omega

theorem alignBits_le_iff {scalar : Scalar} :
    (layout.alignBits scalar).toNat ≤ 8 * layout.alignOf scalar ↔
      ByteAligned (layout.alignBits scalar) := by
  rw [alignOf, ByteAligned, FillsBytes]
  omega

theorem pointerBits_lt (layout : DataLayout) :
    layout.pointerBits.toNat < 8 * layout.sizeOf .ptr + 8 := by
  rw [sizeOf]
  omega

theorem alignBits_lt (layout : DataLayout) (scalar : Scalar) :
    (layout.alignBits scalar).toNat < 8 * layout.alignOf scalar + 8 := by
  rw [alignOf]
  omega

theorem faithful_iff : layout.Faithful ↔
    FillsBytes layout.pointerBits ∧ ∀ scalar, ByteAligned (layout.alignBits scalar) :=
  ⟨fun faithful => ⟨pointerBits_le_iff.1 faithful.pointer,
      fun scalar => alignBits_le_iff.1 (faithful.aligned scalar)⟩,
    fun whole => ⟨pointerBits_le_iff.2 whole.1, fun scalar => alignBits_le_iff.2 (whole.2 scalar)⟩⟩

theorem faithful_of_parse (parsed : parse text = .ok layout)
    (states : ∀ piece ∈ pieces text, ∀ spec, Reads piece spec →
      spec.Within FillsBytes ByteAligned) : layout.Faithful := by
  have own : ∀ align ∈ initialAligns, ByteAligned align :=
    forall_initialAligns_iff.2 (by decide)
  have within := within_of_parse (by decide) own parsed states
  exact faithful_iff.2 ⟨within.size, within.alignBits own⟩

/-- The bits of a struct's fields lie as the layout declares: every field at its alignment, within a
struct of no weaker one, and no pointer shares a bit with what comes behind it. -/
structure KeepsBits (layout : DataLayout) (fields : List Scalar) (placement : StructPlacement) :
    Prop where
  length : placement.offsets.length = fields.length
  aligned : ∀ slot ∈ fields.zip placement.offsets, 8 ≤ (layout.alignBits slot.1).toNat →
    (layout.alignBits slot.1).toNat ∣ 8 * slot.2
  outer : ∀ field ∈ fields, (layout.alignBits field).toNat ≤ 8 * placement.align
  apart : (fields.zip placement.offsets).Pairwise fun first second => first.1 = .ptr →
    8 * first.2 + layout.pointerBits.toNat ≤ 8 * second.2
  ends : ∀ slot ∈ fields.zip placement.offsets, slot.1 = .ptr →
    8 * slot.2 + layout.pointerBits.toNat ≤ 8 * placement.size

theorem alignBits_eq_of_le {scalar : Scalar} (whole : ByteAligned (layout.alignBits scalar))
    (byte : 8 ≤ (layout.alignBits scalar).toNat) :
    (layout.alignBits scalar).toNat = 8 * layout.alignOf scalar := by
  rw [ByteAligned, FillsBytes] at whole
  rw [alignOf]
  omega

theorem Faithful.placeStruct (faithful : layout.Faithful) (fields : List Scalar) :
    layout.KeepsBits fields (layout.placeStruct fields) := by
  obtain ⟨⟨length, aligned, apart⟩, -, ends, -⟩ := layout.place_fits fields 0
  have rounded := layout.finish_le_size fields
  refine ⟨length, fun slot member byte => ?_, fun field member => ?_, ?_, fun slot member at_ => ?_⟩
  · rw [alignBits_eq_of_le (alignBits_le_iff.1 (faithful.aligned slot.1)) byte]
    exact Nat.mul_dvd_mul_left 8 (aligned slot member)
  · exact (faithful.aligned field).trans (Nat.mul_le_mul_left 8 (alignOf_le_structAlign member))
  · refine apart.imp fun {first second} behind at_ => ?_
    rw [at_] at behind
    have room := faithful.pointer
    omega
  · have within := ends slot member
    rw [at_] at within
    have room := faithful.pointer
    omega

theorem bytes_hold_bits (parsed : parse text = .ok layout) :
    (layout.pointerBits.toNat ≤ 8 * layout.sizeOf .ptr ↔ 8 ∣ layout.pointerBits.toNat) ∧
    (∀ scalar, (layout.alignBits scalar).toNat ≤ 8 * layout.alignOf scalar ↔
      8 ∣ (layout.alignBits scalar).toNat ∨ (layout.alignBits scalar).toNat < 8) ∧
    layout.pointerBits.toNat < 8 * layout.sizeOf .ptr + 8 ∧
    (∀ scalar, (layout.alignBits scalar).toNat < 8 * layout.alignOf scalar + 8) ∧
    (layout.Faithful → ∀ fields, layout.KeepsBits fields (layout.placeStruct fields)) ∧
    ((∀ piece ∈ pieces text, ∀ spec, Reads piece spec → spec.Within FillsBytes ByteAligned) →
      layout.Faithful) :=
  ⟨pointerBits_le_iff, fun _ => alignBits_le_iff, layout.pointerBits_lt, layout.alignBits_lt,
    fun faithful => faithful.placeStruct, faithful_of_parse parsed⟩

theorem bytes_hold_bits_narrow :
    let text := "p:24:8-i64:64-f80:128"
    let fields : List Scalar := [.i8, .ptr, .i64]
    ∃ layout, parse text = .ok layout ∧ layout.Faithful ∧
      layout.placeStruct fields = ⟨[0, 1, 8], 16, 8⟩ ∧
      layout.KeepsBits fields ⟨[0, 1, 8], 16, 8⟩ := by
  intro text fields
  let layout : DataLayout :=
    { source := text, pointerBits := 24, pointerAlign := 8,
      intAlign := [(1, 8), (8, 8), (16, 16), (32, 32), (64, 64)],
      floatAlign := [(16, 16), (32, 32), (64, 64), (80, 128), (128, 128)] }
  have parsed : parse text = .ok layout := by decide +kernel
  have placed : layout.placeStruct fields = ⟨[0, 1, 8], 16, 8⟩ := by decide +kernel
  have states : ∀ piece ∈ pieces text, ∀ spec, Reads piece spec →
      spec.Within FillsBytes ByteAligned := by
    have given : pieces text = ["p:24:8", "i64:64", "f80:128"].map String.toList := by
      decide +kernel
    have pointer : LayoutSpec.ofPiece "p:24:8".toList = .ok (.pointer 24 8) := by decide +kernel
    have integer : LayoutSpec.ofPiece "i64:64".toList = .ok (.intAlign 64 64) := by decide +kernel
    have float : LayoutSpec.ofPiece "f80:128".toList = .ok (.floatAlign 80 128) := by
      decide +kernel
    simp only [given, List.map_cons, List.map_nil, List.forall_mem_cons,
      ← LayoutSpec.ofPiece_eq_ok_iff, pointer, integer, float, Except.ok.injEq]
    refine ⟨?_, ?_, ?_, by simp⟩ <;> rintro spec rfl
    · exact ⟨by decide, by decide⟩
    · exact (by decide : ByteAligned 64)
    · exact (by decide : ByteAligned 128)
  obtain ⟨-, -, -, -, keeps, faithful⟩ := bytes_hold_bits parsed
  exact ⟨layout, parsed, faithful states, placed, placed ▸ keeps (faithful states) fields⟩

/-- Pointers of twelve bits get one byte, and the next field starts within them. -/
theorem bytes_drop_bits :
    let text := "p:12:12"
    ∃ layout, parse text = .ok layout ∧ layout.pointerBits = 12 ∧ layout.alignBits .ptr = 12 ∧
      layout.sizeOf .ptr = 1 ∧ layout.alignOf .ptr = 1 ∧
      ¬layout.pointerBits.toNat ≤ 8 * layout.sizeOf .ptr ∧
      ¬(layout.alignBits .ptr).toNat ≤ 8 * layout.alignOf .ptr ∧
      layout.placeStruct [.ptr, .i8] = ⟨[0, 1], 2, 1⟩ := by
  intro text
  let layout : DataLayout := { source := text, pointerBits := 12, pointerAlign := 12 }
  have parsed : parse text = .ok layout := by decide +kernel
  exact ⟨layout, parsed, rfl, rfl, by decide +kernel, by decide +kernel, by decide +kernel,
    by decide +kernel, by decide +kernel⟩

end DataLayout

end Lanewise
