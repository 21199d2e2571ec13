import Lanewise.Proofs.DataLayout.AlignTable
import Lanewise.Proofs.DataLayout.Grammar
import Lanewise.Proofs.Latest

namespace Lanewise

/-! ## Kinds of statements -/

inductive LayoutKey where
  | endian
  | pointer
  | integer (width : UInt32)
  | float (width : UInt32)
  | nativeInts
  | stack
  deriving DecidableEq

namespace LayoutSpec

def key? : LayoutSpec → Option LayoutKey
  | .endian _ => some .endian
  | .pointer _ _ => some .pointer
  | .intAlign width _ => some (.integer width)
  | .floatAlign width _ => some (.float width)
  | .nativeInts _ => some .nativeInts
  | .stack _ => some .stack
  | .other => none

def endian? : LayoutSpec → Option Endianness
  | .endian order => some order
  | _ => none

def pointer? : LayoutSpec → Option (UInt32 × UInt32)
  | .pointer bits align => some (bits, align)
  | _ => none

def integer? (width : UInt32) : LayoutSpec → Option UInt32
  | .intAlign listed align => if listed = width then some align else none
  | _ => none

def float? (width : UInt32) : LayoutSpec → Option UInt32
  | .floatAlign listed align => if listed = width then some align else none
  | _ => none

def nativeInts? : LayoutSpec → Option (List UInt32)
  | .nativeInts widths => some widths
  | _ => none

def stack? : LayoutSpec → Option UInt32
  | .stack align => some align
  | _ => none

def last? {β : Type} (tells? : LayoutSpec → Option β) (specs : List LayoutSpec) : Option β :=
  (specs.filterMap tells?).getLast?

def stated? (piece : List Char) : Option LayoutSpec := (ofPiece piece).toOption

theorem stated?_of_reads {piece : List Char} {spec : LayoutSpec} (reads : Reads piece spec) :
    stated? piece = some spec := by
  rw [stated?, ofPiece_eq_ok_iff.2 reads]
  rfl

end LayoutSpec

open LayoutSpec (Reads last? stated?)

/-! ## Pieces of a kind -/

namespace LayoutKey

def holdsOf (key : LayoutKey) (piece : List Char) : Bool :=
  (stated? piece).bind LayoutSpec.key? = some key

def piecesIn (key : LayoutKey) (pieces : List (List Char)) : List (List Char) :=
  pieces.filter key.holdsOf

def lastPiece? (key : LayoutKey) (pieces : List (List Char)) : Option (List Char) :=
  (key.piecesIn pieces).getLast?

def storage : List LayoutKey :=
  [.pointer, .integer 8, .integer 16, .integer 32, .integer 64, .float 16, .float 32, .float 64]

end LayoutKey

/-- Pieces are left out, but none that is the last of a kind on which the storage of scalars
hangs. -/
inductive Trimmed : List (List Char) → List (List Char) → Prop
  | nil : Trimmed [] []
  | keep {given kept : List (List Char)} (piece : List Char) (trimmed : Trimmed given kept) :
      Trimmed (piece :: given) (piece :: kept)
  | drop {given kept : List (List Char)} (piece : List Char)
      (replaced : ∀ key ∈ LayoutKey.storage, key.holdsOf piece → ∃ later ∈ given, key.holdsOf later)
      (trimmed : Trimmed given kept) : Trimmed (piece :: given) kept

variable {given kept : List (List Char)} {specs : List LayoutSpec} {key : LayoutKey}

theorem Trimmed.subset (trimmed : Trimmed given kept) : kept ⊆ given := by
  induction trimmed with
  | nil => exact List.Subset.refl _
  | keep piece _ ih => exact List.cons_subset_cons piece ih
  | drop piece _ _ ih => exact List.subset_cons_of_subset piece ih

theorem Trimmed.lastPiece? (trimmed : Trimmed given kept) (stored : key ∈ LayoutKey.storage) :
    key.lastPiece? kept = key.lastPiece? given := by
  unfold LayoutKey.lastPiece? LayoutKey.piecesIn
  induction trimmed with
  | nil => rfl
  | keep piece _ ih =>
      cases held : key.holdsOf piece with
      | false =>
          rwa [List.filter_cons_of_neg (by simp [held]), List.filter_cons_of_neg (by simp [held])]
      | true =>
          rw [List.filter_cons_of_pos held, List.filter_cons_of_pos held, List.getLast?_cons, ih,
            List.getLast?_cons]
  | @drop given kept piece replaced _ ih =>
      rw [ih]
      cases held : key.holdsOf piece with
      | false => rw [List.filter_cons_of_neg (by simp [held])]
      | true =>
          -- A later piece of the kind is there to be the last one.
          obtain ⟨later, listed, again⟩ := replaced key stored held
          have filled : given.filter key.holdsOf ≠ [] :=
            List.ne_nil_of_mem (List.mem_filter.2 ⟨listed, again⟩)
          rw [List.filter_cons_of_pos held, List.getLast?_cons,
            List.getLast?_eq_some_getLast filled]
          rfl

/-! ## Parts of a layout -/

theorem findSome?_eq_bind_find? {α β : Type} {read? : α → Option β} {reads : α → Bool}
    (same : ∀ item, (read? item).isSome = reads item) (items : List α) :
    items.findSome? read? = (items.find? reads).bind read? := by
  induction items with
  | nil => rfl
  | cons item items ih =>
      have known := same item
      cases read : read? item with
      | none =>
          rw [read] at known
          simp [← known, read, ih]
      | some value =>
          rw [read] at known
          simp [← known, read]

/-- A part of a layout that statements of one kind write, each in place of what was there. -/
structure LayoutPart (key : LayoutKey) (β : Type) where
  held : DataLayout → Option β
  tells? : LayoutSpec → Option β
  keyed : ∀ spec, (tells? spec).isSome ↔ spec.key? = some key
  held_apply : ∀ layout spec, held (layout.apply spec) = (tells? spec).or (held layout)
  unstated : ∀ text other, held { source := text } = held { source := other }

namespace LayoutPart

variable {β : Type} {text other : String} {layout found : DataLayout}

def endian : LayoutPart .endian Endianness where
  held layout := some layout.endianness
  tells? := LayoutSpec.endian?
  keyed spec := by cases spec <;> simp [LayoutSpec.endian?, LayoutSpec.key?]
  held_apply layout spec := by cases spec <;> rfl
  unstated _ _ := rfl

def pointer : LayoutPart .pointer (UInt32 × UInt32) where
  held layout := some (layout.pointerBits, layout.pointerAlign)
  tells? := LayoutSpec.pointer?
  keyed spec := by cases spec <;> simp [LayoutSpec.pointer?, LayoutSpec.key?]
  held_apply layout spec := by cases spec <;> rfl
  unstated _ _ := rfl

def integer (width : UInt32) : LayoutPart (.integer width) UInt32 where
  held layout := layout.intAlign.get? width
  tells? := LayoutSpec.integer? width
  keyed spec := by cases spec <;> simp [LayoutSpec.integer?, LayoutSpec.key?]
  held_apply layout spec := by
    cases spec with
    | intAlign listed align =>
        simp only [DataLayout.apply, AlignTable.get?_insert, LayoutSpec.integer?]
        split <;> rfl
    | _ => rfl
  unstated _ _ := rfl

def float (width : UInt32) : LayoutPart (.float width) UInt32 where
  held layout := layout.floatAlign.get? width
  tells? := LayoutSpec.float? width
  keyed spec := by cases spec <;> simp [LayoutSpec.float?, LayoutSpec.key?]
  held_apply layout spec := by
    cases spec with
    | floatAlign listed align =>
        simp only [DataLayout.apply, AlignTable.get?_insert, LayoutSpec.float?]
        split <;> rfl
    | _ => rfl
  unstated _ _ := rfl

def nativeInts : LayoutPart .nativeInts (List UInt32) where
  held layout := some layout.nativeInts
  tells? := LayoutSpec.nativeInts?
  keyed spec := by cases spec <;> simp [LayoutSpec.nativeInts?, LayoutSpec.key?]
  held_apply layout spec := by cases spec <;> rfl
  unstated _ _ := rfl

def stack : LayoutPart .stack UInt32 where
  held layout := some layout.stackAlign
  tells? := LayoutSpec.stack?
  keyed spec := by cases spec <;> simp [LayoutSpec.stack?, LayoutSpec.key?]
  held_apply layout spec := by cases spec <;> rfl
  unstated _ _ := rfl

theorem held_foldl (part : LayoutPart key β) (layout : DataLayout) (specs : List LayoutSpec) :
    part.held (specs.foldl DataLayout.apply layout) =
      (last? part.tells? specs).or (part.held layout) :=
  foldl_latest part.held_apply specs layout

theorem held_parse (part : LayoutPart key β) (reads : List.Forall₂ Reads given specs) :
    part.held (specs.foldl DataLayout.apply { source := text }) =
      ((key.lastPiece? given).bind fun piece => (stated? piece).bind part.tells?).or
        (part.held { source := text }) := by
  have stated : given.filterMap stated? = specs := by
    induction reads with
    | nil => rfl
    | cons read _ ih => rw [List.filterMap_cons, LayoutSpec.stated?_of_reads read, ih]
  have of_kind (piece : List Char) :
      ((stated? piece).bind part.tells?).isSome = key.holdsOf piece := by
    rw [Bool.eq_iff_iff, LayoutKey.holdsOf, decide_eq_true_eq]
    cases stated? piece with
    | none => simp
    | some spec => exact part.keyed spec
  rw [part.held_foldl, last?, ← stated, List.filterMap_filterMap, List.getLast?_filterMap,
    findSome?_eq_bind_find? of_kind, ← List.getLast?_filter]
  rfl

theorem held_congr (part : LayoutPart key β) (parsed : DataLayout.parse text = .ok layout)
    (parsed' : DataLayout.parse other = .ok found)
    (same : key.lastPiece? (DataLayout.pieces other) = key.lastPiece? (DataLayout.pieces text)) :
    part.held found = part.held layout := by
  obtain ⟨specs, reads, rfl⟩ := DataLayout.parse_eq_ok_iff.1 parsed
  obtain ⟨specs', reads', rfl⟩ := DataLayout.parse_eq_ok_iff.1 parsed'
  rw [part.held_parse reads, part.held_parse reads', same, part.unstated]

end LayoutPart

/-! ## The storage of scalars -/

namespace DataLayout

variable {text other : String} {layout found : DataLayout} {width : UInt32}

structure SameStorage (first second : DataLayout) : Prop where
  sizeOf : ∀ scalar, first.sizeOf scalar = second.sizeOf scalar
  alignOf : ∀ scalar, first.alignOf scalar = second.alignOf scalar
  placeStruct : ∀ fields, first.placeStruct fields = second.placeStruct fields

theorem ascends_foldl (ascends : layout.intAlign.Ascends) (specs : List LayoutSpec) :
    (specs.foldl apply layout).intAlign.Ascends := by
  induction specs generalizing layout with
  | nil => exact ascends
  | cons spec specs ih =>
      refine ih ?_
      cases spec with
      | intAlign width align => exact AlignTable.ascends_insert ascends width align
      | _ => exact ascends

theorem get?_intAlign (parsed : parse text = .ok layout) (stored : width ∈ [8, 16, 32, 64]) :
    layout.intAlign.get? width = some (layout.integerAlign width) := by
  obtain ⟨specs, -, rfl⟩ := parse_eq_ok_iff.1 parsed
  have held := (LayoutPart.integer width).held_foldl { source := text } specs
  have default : ∃ align, (LayoutPart.integer width).held { source := text } = some align := by
    simp only [List.mem_cons, List.not_mem_nil, or_false] at stored
    rcases stored with rfl | rfl | rfl | rfl <;> exact ⟨_, rfl⟩
  obtain ⟨align, default⟩ := default
  rw [default, Option.or_some] at held
  have found : (specs.foldl apply { source := text }).intAlign.get? width = some _ := held
  have initial : AlignTable.Ascends [(1, 8), (8, 8), (16, 16), (32, 32), (64, 32)] := by decide
  have ascends : (specs.foldl apply { source := text }).intAlign.Ascends :=
    ascends_foldl initial specs
  rw [integerAlign, AlignTable.ceiling?_of_get? ascends found, found, Option.getD_some]

theorem placeStruct_congr (sizes : ∀ scalar, found.sizeOf scalar = layout.sizeOf scalar)
    (aligns : ∀ scalar, found.alignOf scalar = layout.alignOf scalar) (fields : List Scalar) :
    found.placeStruct fields = layout.placeStruct fields := by
  have placed (start : Nat) : found.place start fields = layout.place start fields := by
    induction fields generalizing start with
    | nil => rfl
    | cons field fields ih => rw [place, place, sizes, aligns, ih]
  have align : found.structAlign fields = layout.structAlign fields := by
    simp only [structAlign, aligns]
  rw [placeStruct, placeStruct, placed, align]

theorem sameStorage_of_lastPieces (parsed : parse text = .ok layout)
    (parsed' : parse other = .ok found)
    (same : ∀ key ∈ LayoutKey.storage,
      key.lastPiece? (pieces other) = key.lastPiece? (pieces text)) :
    found.SameStorage layout := by
  have pointer := LayoutPart.pointer.held_congr parsed parsed' (same _ (by decide))
  obtain ⟨bits, align⟩ := Prod.mk.inj (Option.some.inj pointer)
  have integer (width : UInt32) (stored : width ∈ [8, 16, 32, 64])
      (kind : .integer width ∈ LayoutKey.storage) :
      found.integerAlign width = layout.integerAlign width := by
    have held : found.intAlign.get? width = layout.intAlign.get? width :=
      (LayoutPart.integer width).held_congr parsed parsed' (same _ kind)
    rw [get?_intAlign parsed stored, get?_intAlign parsed' stored] at held
    exact Option.some.inj held
  have float (width : UInt32) (kind : .float width ∈ LayoutKey.storage) :
      found.floatAlign.get? width = layout.floatAlign.get? width :=
    (LayoutPart.float width).held_congr parsed parsed' (same _ kind)
  have sizes (scalar : Scalar) : found.sizeOf scalar = layout.sizeOf scalar := by
    cases scalar with
    | ptr => exact congrArg (·.toNat / 8) bits
    | _ => rfl
  have aligns (scalar : Scalar) : found.alignOf scalar = layout.alignOf scalar := by
    have asked : found.alignBits scalar = layout.alignBits scalar := by
      cases scalar with
      | bool | i8 => exact integer 8 (by decide) (by decide)
      | i16 => exact integer 16 (by decide) (by decide)
      | i32 => exact integer 32 (by decide) (by decide)
      | i64 => exact integer 64 (by decide) (by decide)
      | f16 => exact congrArg (·.getD 16) (float 16 (by decide))
      | f32 => exact congrArg (·.getD 32) (float 32 (by decide))
      | f64 => exact congrArg (·.getD 64) (float 64 (by decide))
      | ptr => exact align
    rw [alignOf, alignOf, asked]
  exact ⟨sizes, aligns, placeStruct_congr sizes aligns⟩

theorem parse_last (parsed : parse text = .ok layout) :
    (∃ specs, List.Forall₂ Reads (pieces text) specs ∧
      layout.endianness = (last? LayoutSpec.endian? specs).getD .little ∧
      (layout.pointerBits, layout.pointerAlign) = (last? LayoutSpec.pointer? specs).getD (64, 64) ∧
      layout.stackAlign = (last? LayoutSpec.stack? specs).getD 0 ∧
      layout.nativeInts = (last? LayoutSpec.nativeInts? specs).getD [] ∧
      (∀ width, layout.intAlign.get? width = (last? (LayoutSpec.integer? width) specs).or
        (AlignTable.get? width [(1, 8), (8, 8), (16, 16), (32, 32), (64, 32)])) ∧
      ∀ width, layout.floatAlign.get? width = (last? (LayoutSpec.float? width) specs).or
        (AlignTable.get? width [(16, 16), (32, 32), (64, 64), (128, 128)])) ∧
    (∀ other, (∀ piece ∈ pieces other, ∃ spec, Reads piece spec) →
      (∀ key ∈ LayoutKey.storage, key.lastPiece? (pieces other) = key.lastPiece? (pieces text)) →
      ∃ found, parse other = .ok found ∧ found.SameStorage layout) ∧
    (∀ other, Trimmed (pieces text) (pieces other) →
      ∃ found, parse other = .ok found ∧ found.SameStorage layout) ∧
    (∀ other, (pieces other).Perm (pieces text) →
      (∀ key : LayoutKey, key.piecesIn (pieces other) = key.piecesIn (pieces text)) →
      ∃ found, parse other = .ok found ∧ found.SameStorage layout) ∧
    ∀ width ∈ [8, 16, 32, 64], layout.intAlign.get? width = some (layout.integerAlign width) := by
  have accepted := accepted_iff.1 ⟨layout, parsed⟩
  have agrees (other : String) (reads : ∀ piece ∈ pieces other, ∃ spec, Reads piece spec)
      (same : ∀ key ∈ LayoutKey.storage,
        key.lastPiece? (pieces other) = key.lastPiece? (pieces text)) :
      ∃ found, parse other = .ok found ∧ found.SameStorage layout := by
    obtain ⟨found, parsed'⟩ := accepted_iff.2 reads
    exact ⟨found, parsed', sameStorage_of_lastPieces parsed parsed' same⟩
  refine ⟨?_, agrees, ?_, ?_, fun width => get?_intAlign parsed⟩
  · obtain ⟨specs, reads, rfl⟩ := parse_eq_ok_iff.1 parsed
    have held {key : LayoutKey} {β : Type} (part : LayoutPart key β) :=
      part.held_foldl { source := text } specs
    refine ⟨specs, reads, ?_, ?_, ?_, ?_, fun width => held (.integer width),
      fun width => held (.float width)⟩
    · exact Option.some.inj ((held .endian).trans Option.or_some)
    · exact Option.some.inj ((held .pointer).trans Option.or_some)
    · exact Option.some.inj ((held .stack).trans Option.or_some)
    · exact Option.some.inj ((held .nativeInts).trans Option.or_some)
  · intro other trimmed
    exact agrees other (fun piece listed => accepted piece (trimmed.subset listed))
      fun key stored => trimmed.lastPiece? stored
  · intro other permuted same
    exact agrees other (fun piece listed => accepted piece (permuted.subset listed))
      fun key _ => congrArg List.getLast? (same key)

theorem parse_last_respelled :
    let text := "p:32:32-i8:8-e-p0:64:64-i08:16"
    let other := "p0:64:64-i08:16"
    ∃ layout, parse text = .ok layout ∧
      ∃ found, parse other = .ok found ∧ found.SameStorage layout := by
  intro text other
  obtain ⟨layout, parsed⟩ : ∃ layout, parse text = .ok layout :=
    isOk_iff.1 (by decide +kernel)
  obtain ⟨-, -, trims, -⟩ := parse_last parsed
  have given : pieces text =
      ["p:32:32", "i8:8", "e", "p0:64:64", "i08:16"].map String.toList := by decide +kernel
  have kept : pieces other = ["p0:64:64", "i08:16"].map String.toList := by decide +kernel
  have trimmed : Trimmed (pieces text) (pieces other) := by
    rw [given, kept]
    refine .drop _ (by decide +kernel) ?_
    refine .drop _ (by decide +kernel) ?_
    refine .drop _ (by decide +kernel) ?_
    exact .keep _ (.keep _ .nil)
  exact ⟨layout, parsed, trims other trimmed⟩

end DataLayout

end Lanewise
