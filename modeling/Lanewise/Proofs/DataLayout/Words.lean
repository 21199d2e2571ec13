import Lanewise.Proofs.DataLayout.Placement

/-!
# Placement in 64-bit words

Offsets and sizes are kept in 64-bit words, where a sum may be too large and where nothing can be
rounded to multiples of zero. Placing fields by steps that fail in such a case comes to the
placement in numbers as long as the last of these numbers is a word, since no offset is larger than
the end of the struct.
-/

namespace Lanewise

section RoundUp

variable {n unit : Nat}

theorem roundUp_of_mod_eq_zero (positive : 0 < unit) (whole : n % unit = 0) :
    roundUp n unit = n :=
  le_antisymm ((roundUp_le_iff positive (Nat.dvd_of_mod_eq_zero whole)).2 le_rfl)
    (le_roundUp positive)

theorem roundUp_of_mod_pos (positive : 0 < unit) (rest : 0 < n % unit) :
    roundUp n unit = n + (unit - n % unit) := by
  have below : n % unit < unit := Nat.mod_lt n positive
  have split : unit * (n / unit) + n % unit = n := Nat.div_add_mod n unit
  have next : n + (unit - n % unit) = unit * (n / unit + 1) := by
    rw [Nat.mul_add]
    omega
  rw [next]
  apply le_antisymm
  · rw [roundUp_le_iff positive (Nat.dvd_mul_right _ _), ← next]
    exact Nat.le_add_right _ _
  · -- Any multiple from the number on lies beyond the last one before it.
    obtain ⟨count, rounded⟩ := dvd_roundUp n unit
    have reached : n ≤ unit * count := rounded ▸ le_roundUp positive
    have beyond : unit * (n / unit) < unit * count := by omega
    rw [rounded]
    exact Nat.mul_le_mul_left unit (Nat.lt_of_mul_lt_mul_left beyond)

end RoundUp

namespace Word

variable {n unit a b : UInt64}

def add? (a b : UInt64) : Option UInt64 :=
  if a.toNat + b.toNat < UInt64.size then some (a + b) else none

def nextMultiple? (n unit : UInt64) : Option UInt64 :=
  if unit = 0 then none
  else if n % unit = 0 then some n
  else add? n (unit - n % unit)

theorem exists_add? (fits : a.toNat + b.toNat < UInt64.size) :
    ∃ sum, add? a b = some sum ∧ sum.toNat = a.toNat + b.toNat := by
  refine ⟨a + b, if_pos fits, ?_⟩
  rw [UInt64.toNat_add]
  exact Nat.mod_eq_of_lt fits

theorem exists_nextMultiple? (positive : 0 < unit.toNat)
    (fits : roundUp n.toNat unit.toNat < UInt64.size) :
    ∃ multiple, nextMultiple? n unit = some multiple ∧
      multiple.toNat = roundUp n.toNat unit.toNat := by
  have nonzero : unit ≠ 0 := by
    rintro rfl
    exact absurd positive (lt_irrefl 0)
  have rest : (n % unit).toNat = n.toNat % unit.toNat := UInt64.toNat_mod n unit
  have below : n.toNat % unit.toNat < unit.toNat := Nat.mod_lt _ positive
  rw [nextMultiple?, if_neg nonzero]
  by_cases whole : n % unit = 0
  · rw [if_pos whole]
    rw [whole] at rest
    exact ⟨n, rfl, (roundUp_of_mod_eq_zero positive rest.symm).symm⟩
  · have gap : (unit - n % unit).toNat = unit.toNat - n.toNat % unit.toNat := by
      rw [UInt64.toNat_sub_of_le _ _ (UInt64.le_iff_toNat_le.2 (rest ▸ below.le)), rest]
    have remains : 0 < n.toNat % unit.toNat := by
      rw [← rest]
      exact Nat.pos_of_ne_zero fun zero => whole (UInt64.toNat_inj.1 zero)
    rw [if_neg whole, roundUp_of_mod_pos positive remains, ← gap]
    rw [roundUp_of_mod_pos positive remains, ← gap] at fits
    exact exists_add? fits

end Word

namespace DataLayout

variable {layout : DataLayout} {fields : List Scalar} {start : UInt64}

def sizeWord (layout : DataLayout) : Scalar → UInt64
  | .bool | .i8 => 1
  | .i16 | .f16 => 2
  | .i32 | .f32 => 4
  | .i64 | .f64 => 8
  | .ptr => (layout.pointerBits / 8).toUInt64

def alignWord (layout : DataLayout) (scalar : Scalar) : UInt64 :=
  max (layout.alignBits scalar / 8).toUInt64 1

@[simp] theorem toNat_sizeWord (layout : DataLayout) (scalar : Scalar) :
    (layout.sizeWord scalar).toNat = layout.sizeOf scalar := by
  cases scalar with
  | ptr => rw [sizeWord, sizeOf, UInt32.toNat_toUInt64, UInt32.toNat_div]; rfl
  | _ => rfl

@[simp] theorem toNat_alignWord (layout : DataLayout) (scalar : Scalar) :
    (layout.alignWord scalar).toNat = layout.alignOf scalar := by
  rw [alignWord, alignOf, UInt64.toNat_max, UInt32.toNat_toUInt64, UInt32.toNat_div]
  rfl

def placeWords? (layout : DataLayout) (start : UInt64) :
    List Scalar → Option (List UInt64 × UInt64)
  | [] => some ([], start)
  | field :: rest => do
      let offset ← Word.nextMultiple? start (layout.alignWord field)
      let next ← Word.add? offset (layout.sizeWord field)
      let (offsets, finish) ← layout.placeWords? next rest
      return (offset :: offsets, finish)

structure WordPlacement where
  offsets : List UInt64
  size : UInt64
  align : UInt64

def WordPlacement.value (placement : WordPlacement) : StructPlacement :=
  ⟨placement.offsets.map UInt64.toNat, placement.size.toNat, placement.align.toNat⟩

def structAlignWord (layout : DataLayout) (fields : List Scalar) : UInt64 :=
  fields.foldl (fun align field => max align (layout.alignWord field)) 1

def placeStructWords? (layout : DataLayout) (fields : List Scalar) : Option WordPlacement := do
  let (offsets, finish) ← layout.placeWords? 0 fields
  let align := layout.structAlignWord fields
  let size ← Word.nextMultiple? finish align
  return { offsets, size, align }

theorem exists_placeWords? (fits : (layout.place start.toNat fields).2 < UInt64.size) :
    ∃ offsets finish, layout.placeWords? start fields = some (offsets, finish) ∧
      offsets.map UInt64.toNat = (layout.place start.toNat fields).1 ∧
      finish.toNat = (layout.place start.toNat fields).2 := by
  induction fields generalizing start with
  | nil => exact ⟨[], start, rfl, rfl, rfl⟩
  | cons field fields ih =>
      let offset := roundUp start.toNat (layout.alignOf field)
      let placed := layout.place (offset + layout.sizeOf field) fields
      -- The end of the struct bounds every number before it.
      have grows : offset + layout.sizeOf field ≤ placed.2 :=
        (layout.place_fits fields (offset + layout.sizeOf field)).2.2.2
      have below : offset + layout.sizeOf field < UInt64.size := lt_of_le_of_lt grows fits
      have positive : 0 < (layout.alignWord field).toNat := by
        rw [toNat_alignWord]
        exact layout.alignOf_pos field
      have offsetFits : roundUp start.toNat (layout.alignWord field).toNat < UInt64.size := by
        rw [toNat_alignWord]
        exact lt_of_le_of_lt (Nat.le_add_right _ _) below
      obtain ⟨first, rounded, firstValue⟩ := Word.exists_nextMultiple? positive offsetFits
      rw [toNat_alignWord] at firstValue
      have nextFits : first.toNat + (layout.sizeWord field).toNat < UInt64.size := by
        rw [toNat_sizeWord, firstValue]
        exact below
      obtain ⟨next, added, nextValue⟩ := Word.exists_add? nextFits
      rw [toNat_sizeWord, firstValue] at nextValue
      have restFits : (layout.place next.toNat fields).2 < UInt64.size := by
        rw [nextValue]
        exact fits
      obtain ⟨offsets, finish, rest, values, finishValue⟩ := ih restFits
      rw [nextValue] at values finishValue
      refine ⟨first :: offsets, finish, ?_, ?_, finishValue⟩
      · simp only [placeWords?, Option.bind_eq_bind, rounded, added, rest, Option.bind_some]
        rfl
      · rw [List.map_cons, values, firstValue]
        rfl

theorem toNat_structAlignWord (layout : DataLayout) (fields : List Scalar) :
    (layout.structAlignWord fields).toNat = layout.structAlign fields :=
  (List.foldl_hom UInt64.toNat fun align field => by
    rw [UInt64.toNat_max, toNat_alignWord]).symm

theorem exists_placeStructWords? (fits : (layout.placeStruct fields).size < UInt64.size) :
    ∃ placement, layout.placeStructWords? fields = some placement ∧
      placement.value = layout.placeStruct fields := by
  have finishFits : (layout.place (0 : UInt64).toNat fields).2 < UInt64.size :=
    lt_of_le_of_lt (layout.finish_le_size fields) fits
  obtain ⟨offsets, finish, placed, offsetValues, finishValue⟩ := exists_placeWords? finishFits
  have positive : 0 < (layout.structAlignWord fields).toNat := by
    rw [toNat_structAlignWord]
    exact layout.structAlign_pos fields
  have sizeFits : roundUp finish.toNat (layout.structAlignWord fields).toNat < UInt64.size := by
    rw [finishValue, toNat_structAlignWord]
    exact fits
  obtain ⟨size, filled, sizeValue⟩ := Word.exists_nextMultiple? positive sizeFits
  refine ⟨⟨offsets, size, layout.structAlignWord fields⟩, ?_, ?_⟩
  · simp only [placeStructWords?, Option.bind_eq_bind, placed, Option.bind_some, filled]
    rfl
  · rw [WordPlacement.value, offsetValues, sizeValue, toNat_structAlignWord, finishValue]
    rfl

theorem getElem?_offsets (layout : DataLayout) (before after : List Scalar) (field : Scalar) :
    (layout.placeStruct (before ++ field :: after)).offsets[before.length]? =
      some (roundUp (layout.place 0 before).2 (layout.alignOf field)) := by
  have length : (layout.place 0 before).1.length = before.length :=
    (layout.place_fits before 0).1.length
  have offsets : (layout.placeStruct (before ++ field :: after)).offsets =
      (layout.place 0 before).1 ++ (layout.place (layout.place 0 before).2 (field :: after)).1 :=
    layout.place_append before (field :: after) 0
  rw [offsets, List.getElem?_append_right length.le, length, Nat.sub_self]
  rfl

theorem finish_lt (layout : DataLayout) (few : fields.length < 2 ^ 33) :
    (layout.place 0 fields).2 < 2 ^ 63 := by
  have finish := layout.place_le fields 0
  omega

theorem step_lt (layout : DataLayout) (field : Scalar) (start : Nat) :
    roundUp start (layout.alignOf field) + layout.sizeOf field < start + 2 ^ 30 := by
  have gap : roundUp start (layout.alignOf field) < start + layout.alignOf field :=
    roundUp_lt (layout.alignOf_pos field)
  have align := layout.alignOf_le field
  have size := layout.sizeOf_le field
  omega

theorem placed_in_words (layout : DataLayout) (few : fields.length < 2 ^ 33) :
    (∀ field ∈ fields, 1 ≤ layout.alignOf field) ∧
    1 ≤ (layout.placeStruct fields).align ∧
    (∀ before field after, fields = before ++ field :: after →
      let start := (layout.place 0 before).2
      let offset := roundUp start (layout.alignOf field)
      (layout.placeStruct fields).offsets[before.length]? = some offset ∧
        start < 2 ^ 64 ∧ offset < 2 ^ 64 ∧ offset + layout.sizeOf field < 2 ^ 64) ∧
    (layout.place 0 fields).2 < 2 ^ 64 ∧
    (layout.placeStruct fields).size < 2 ^ 64 ∧
    ∃ placement, layout.placeStructWords? fields = some placement ∧
      placement.value = layout.placeStruct fields := by
  have size : (layout.placeStruct fields).size < 2 ^ 64 :=
    layout.size_placeStruct_lt (few.trans (by decide))
  refine ⟨fun field _ => layout.alignOf_pos field, layout.structAlign_pos fields, ?_, ?_, size,
    exists_placeStructWords? size⟩
  · rintro before field after rfl
    have fewer : before.length < 2 ^ 33 :=
      lt_of_le_of_lt (by simp) few
    have start := layout.finish_lt fewer
    have next := layout.step_lt field (layout.place 0 before).2
    exact ⟨layout.getElem?_offsets before after field, by omega, by omega, by omega⟩
  · exact (layout.finish_lt few).trans (by decide)

theorem placed_in_words_widest :
    let text := "p:4294967295:4294967295"
    let fields := List.replicate (2 ^ 33 - 1) Scalar.ptr
    ∃ layout, parse text = .ok layout ∧ layout.sizeOf .ptr = 2 ^ 29 - 1 ∧
      layout.alignOf .ptr = 2 ^ 29 - 1 ∧ fields.length < 2 ^ 33 ∧
      (layout.placeStruct fields).size < 2 ^ 64 ∧
      ∃ placement, layout.placeStructWords? fields = some placement ∧
        placement.value = layout.placeStruct fields := by
  intro text fields
  let layout : DataLayout :=
    { source := text, pointerBits := 4294967295, pointerAlign := 4294967295 }
  have parsed : parse text = .ok layout := by decide +kernel
  have few : fields.length < 2 ^ 33 := by
    rw [List.length_replicate]
    decide
  obtain ⟨-, -, -, -, size, words⟩ := placed_in_words layout few
  exact ⟨layout, parsed, by decide +kernel, by decide +kernel, few, size, words⟩

end DataLayout

end Lanewise
