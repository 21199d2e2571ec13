import Lanewise.Proofs.DataLayout.Numbers
import Lanewise.Proofs.DataLayout.Placement
import Mathlib.Algebra.Group.Nat.Defs

namespace Lanewise

def IsBinary (align : UInt32) : Prop := align = 0 ∨ ∃ exponent, align.toNat = 2 ^ exponent

theorem exists_bytes_of_isBinary {align : UInt32} (binary : IsBinary align) :
    ∃ exponent, max (align.toNat / 8) 1 = 2 ^ exponent := by
  rcases binary with rfl | ⟨exponent, bits⟩
  · exact ⟨0, rfl⟩
  · rw [bits]
    by_cases small : exponent < 3
    · have none : 2 ^ exponent / 8 = 0 :=
        Nat.div_eq_of_lt (Nat.pow_lt_pow_right Nat.one_lt_two small)
      exact ⟨0, by rw [none]; rfl⟩
    · -- Eight bits to a byte take three off the exponent.
      have bytes : 2 ^ exponent / 8 = 2 ^ (exponent - 3) :=
        Nat.pow_div (Nat.not_lt.1 small) Nat.two_pos
      exact ⟨exponent - 3, by rw [bytes, Nat.max_eq_left Nat.one_le_two_pow]⟩

def LayoutSpec.StatesBinary : LayoutSpec → Prop
  | .pointer _ align | .intAlign _ align | .floatAlign _ align => IsBinary align
  | .endian _ | .nativeInts _ | .stack _ | .other => True

namespace DataLayout

open LayoutSpec (Reads StatesBinary)

variable {text : String} {layout : DataLayout} {fields : List Scalar} {bytes size offset : Nat}

structure Binary (layout : DataLayout) : Prop where
  pointer : IsBinary layout.pointerAlign
  integers : ∀ entry ∈ layout.intAlign, IsBinary entry.2
  floats : ∀ entry ∈ layout.floatAlign, IsBinary entry.2

theorem binary_iff_within : layout.Binary ↔ layout.Within (fun _ => True) IsBinary :=
  ⟨fun binary => ⟨trivial, binary.pointer, binary.integers, binary.floats⟩,
    fun within => ⟨within.pointer, within.integers, within.floats⟩⟩

theorem isBinary_initial : ∀ align ∈ initialAligns, IsBinary align :=
  forall_initialAligns_iff.2
    ⟨.inr ⟨3, rfl⟩, .inr ⟨4, rfl⟩, .inr ⟨5, rfl⟩, .inr ⟨6, rfl⟩, .inr ⟨7, rfl⟩⟩

theorem binary_of_parse (parsed : parse text = .ok layout)
    (states : ∀ piece ∈ pieces text, ∀ spec, Reads piece spec → spec.StatesBinary) :
    layout.Binary := by
  refine binary_iff_within.2 (within_of_parse trivial isBinary_initial parsed ?_)
  intro piece listed spec reads
  have stated := states piece listed spec reads
  cases spec with
  | pointer bits align => exact ⟨trivial, stated⟩
  | _ => exact stated

theorem Binary.alignBits (binary : layout.Binary) (scalar : Scalar) :
    IsBinary (layout.alignBits scalar) :=
  (binary_iff_within.1 binary).alignBits isBinary_initial scalar

theorem Binary.dvd_of_le (binary : layout.Binary) {field other : Scalar}
    (below : layout.alignOf field ≤ layout.alignOf other) :
    layout.alignOf field ∣ layout.alignOf other := by
  obtain ⟨exponent, bytes⟩ := exists_bytes_of_isBinary (binary.alignBits field)
  obtain ⟨exponent', bytes'⟩ := exists_bytes_of_isBinary (binary.alignBits other)
  unfold alignOf at below ⊢
  rw [bytes, bytes'] at below ⊢
  exact Nat.pow_dvd_pow 2 ((Nat.pow_le_pow_iff_right Nat.one_lt_two).1 below)

theorem Binary.dvd_structAlign (binary : layout.Binary) {field : Scalar} (member : field ∈ fields) :
    layout.alignOf field ∣ layout.structAlign fields := by
  obtain ⟨⟨widest, -, greatest⟩, bound⟩ :=
    layout.structAlign_greatest (List.ne_nil_of_mem member)
  rw [← greatest]
  exact binary.dvd_of_le (greatest ▸ bound ⟨field, member, rfl⟩)

theorem forall_element_iff (aligned : bytes ∣ offset) :
    (∀ index, bytes ∣ index * size + offset) ↔ bytes ∣ size := by
  constructor
  · intro all
    have second := all 1
    rwa [Nat.one_mul, Nat.dvd_add_left aligned] at second
  · exact fun divides index => Nat.dvd_add (divides.mul_left index) aligned

theorem elements_aligned (parsed : parse text = .ok layout) (fields : List Scalar) :
    let placement := layout.placeStruct fields
    placement.offsets.length = fields.length ∧
    placement.align ∣ placement.size ∧
    (∀ slot ∈ fields.zip placement.offsets, layout.alignOf slot.1 ∣ placement.align →
      ∀ index, layout.alignOf slot.1 ∣ index * placement.size + slot.2) ∧
    (∀ slot ∈ fields.zip placement.offsets,
      (∀ index, layout.alignOf slot.1 ∣ index * placement.size + slot.2) ↔
        layout.alignOf slot.1 ∣ placement.size) ∧
    ((∀ piece ∈ pieces text, ∀ spec, Reads piece spec → spec.StatesBinary) →
      (∀ field ∈ fields,
        layout.alignOf field ∣ placement.align ∧ layout.alignOf field ∣ placement.size) ∧
      ∀ slot ∈ fields.zip placement.offsets, ∀ index,
        layout.alignOf slot.1 ∣ index * placement.size + slot.2) := by
  intro placement
  obtain ⟨⟨length, aligned, -⟩, -, -, -⟩ := layout.place_fits fields 0
  have rounded : placement.align ∣ placement.size := dvd_roundUp _ _
  refine ⟨length, rounded, ?_, ?_, fun states => ?_⟩
  · intro slot member divides
    exact (forall_element_iff (aligned slot member)).2 (divides.trans rounded)
  · exact fun slot member => forall_element_iff (aligned slot member)
  · have binary := binary_of_parse parsed states
    have divides (field : Scalar) (member : field ∈ fields) :
        layout.alignOf field ∣ placement.align := binary.dvd_structAlign member
    refine ⟨fun field member => ⟨divides field member, (divides field member).trans rounded⟩, ?_⟩
    intro slot member
    exact (forall_element_iff (aligned slot member)).2
      ((divides slot.1 (List.of_mem_zip member).1).trans rounded)

theorem elements_aligned_narrow :
    let text := "p:32:32-f64:32"
    let fields : List Scalar := [.i8, .f64, .i16]
    ∃ layout, parse text = .ok layout ∧ layout.placeStruct fields = ⟨[0, 4, 12], 16, 4⟩ ∧
      ∀ slot ∈ fields.zip [0, 4, 12], ∀ index, layout.alignOf slot.1 ∣ index * 16 + slot.2 := by
  intro text fields
  let layout : DataLayout :=
    { source := text, pointerBits := 32, pointerAlign := 32,
      floatAlign := [(16, 16), (32, 32), (64, 32), (128, 128)] }
  have parsed : parse text = .ok layout := by decide +kernel
  have placed : layout.placeStruct fields = ⟨[0, 4, 12], 16, 4⟩ := by decide +kernel
  have states : ∀ piece ∈ pieces text, ∀ spec, Reads piece spec → spec.StatesBinary := by
    have given : pieces text = ["p:32:32", "f64:32"].map String.toList := by decide +kernel
    have pointer : LayoutSpec.ofPiece "p:32:32".toList = .ok (.pointer 32 32) := by decide +kernel
    have float : LayoutSpec.ofPiece "f64:32".toList = .ok (.floatAlign 64 32) := by decide +kernel
    simp only [given, List.map_cons, List.map_nil, List.forall_mem_cons,
      ← LayoutSpec.ofPiece_eq_ok_iff, pointer, float, Except.ok.injEq]
    refine ⟨?_, ?_, by simp⟩ <;> rintro spec rfl <;> exact .inr ⟨5, rfl⟩
  obtain ⟨-, -, -, -, everywhere⟩ := elements_aligned parsed fields
  have aligned := (everywhere states).2
  rw [placed] at aligned
  exact ⟨layout, parsed, placed, aligned⟩

/-- Integers of 16 bits that are aligned to three bytes, beside a word: the second element starts at
the eighth byte. -/
theorem element_misaligned :
    let text := "i16:24"
    let fields : List Scalar := [.i16, .i32]
    ∃ layout, parse text = .ok layout ∧ layout.placeStruct fields = ⟨[0, 4], 8, 4⟩ ∧
      ∃ slot ∈ fields.zip [0, 4], ¬layout.alignOf slot.1 ∣ 1 * 8 + slot.2 := by
  intro text fields
  let layout : DataLayout :=
    { source := text, intAlign := [(1, 8), (8, 8), (16, 24), (32, 32), (64, 32)] }
  have parsed : parse text = .ok layout := by decide +kernel
  exact ⟨layout, parsed, by decide +kernel, (.i16, 0), by decide +kernel, by decide +kernel⟩

end DataLayout

end Lanewise
