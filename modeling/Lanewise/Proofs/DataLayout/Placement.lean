import Lanewise.DataLayout
import Mathlib.Algebra.Order.Floor.Div
import Mathlib.Data.List.Forall2
import Mathlib.Order.Bounds.Defs

namespace Lanewise

section RoundUp

variable {n m unit : Nat}

theorem dvd_roundUp (n unit : Nat) : unit ∣ roundUp n unit := Nat.dvd_mul_left _ _

theorem roundUp_le_iff (positive : 0 < unit) (multiple : unit ∣ m) :
    roundUp n unit ≤ m ↔ n ≤ m := by
  obtain ⟨count, rfl⟩ := multiple
  have quotient : roundUp n unit = unit * (n ⌈/⌉ unit) := Nat.mul_comm _ _
  rw [quotient, Nat.mul_le_mul_left_iff positive]
  exact ceilDiv_le_iff_le_mul positive

theorem le_roundUp (positive : 0 < unit) : n ≤ roundUp n unit :=
  (roundUp_le_iff positive (dvd_roundUp n unit)).1 le_rfl

theorem roundUp_lt (positive : 0 < unit) : roundUp n unit < n + unit := by
  have below : roundUp n unit ≤ n + unit - 1 := Nat.div_mul_le_self _ _
  omega

end RoundUp

namespace DataLayout

variable {layout : DataLayout} {fields : List Scalar} {offsets : List Nat} {start size : Nat}

theorem alignOf_pos (layout : DataLayout) (scalar : Scalar) : 0 < layout.alignOf scalar :=
  Nat.le_max_right _ _

structure Placed (layout : DataLayout) (fields : List Scalar) (offsets : List Nat) : Prop where
  length : offsets.length = fields.length
  aligned : ∀ slot ∈ fields.zip offsets, layout.alignOf slot.1 ∣ slot.2
  apart : (fields.zip offsets).Pairwise fun first second =>
    first.2 + layout.sizeOf first.1 ≤ second.2

def StartsAt (fields : List Scalar) (offsets : List Nat) (start : Nat) : Prop :=
  ∀ slot ∈ fields.zip offsets, start ≤ slot.2

def EndsWithin (layout : DataLayout) (fields : List Scalar) (offsets : List Nat) (size : Nat) :
    Prop :=
  ∀ slot ∈ fields.zip offsets, slot.2 + layout.sizeOf slot.1 ≤ size

theorem placed_nil : layout.Placed [] [] := ⟨rfl, by simp, by simp⟩

theorem placed_cons_iff {field : Scalar} {offset : Nat} :
    layout.Placed (field :: fields) (offset :: offsets) ↔
      layout.alignOf field ∣ offset ∧ StartsAt fields offsets (offset + layout.sizeOf field) ∧
        layout.Placed fields offsets := by
  constructor
  · rintro ⟨length, aligned, apart⟩
    rw [List.zip_cons_cons] at aligned apart
    obtain ⟨behind, apart⟩ := List.pairwise_cons.1 apart
    exact ⟨aligned _ List.mem_cons_self, behind, Nat.succ.inj length,
      fun slot member => aligned slot (List.mem_cons_of_mem _ member), apart⟩
  · rintro ⟨first, behind, length, aligned, apart⟩
    exact ⟨congrArg Nat.succ length, List.forall_mem_cons.2 ⟨first, aligned⟩,
      List.pairwise_cons.2 ⟨behind, apart⟩⟩

theorem startsAt_cons_iff {field : Scalar} {offset : Nat} :
    StartsAt (field :: fields) (offset :: offsets) start ↔
      start ≤ offset ∧ StartsAt fields offsets start :=
  List.forall_mem_cons

theorem endsWithin_cons_iff {field : Scalar} {offset : Nat} :
    EndsWithin layout (field :: fields) (offset :: offsets) size ↔
      offset + layout.sizeOf field ≤ size ∧ EndsWithin layout fields offsets size :=
  List.forall_mem_cons

theorem place_fits (layout : DataLayout) (fields : List Scalar) (start : Nat) :
    let placed := layout.place start fields
    layout.Placed fields placed.1 ∧ StartsAt fields placed.1 start ∧
      EndsWithin layout fields placed.1 placed.2 ∧ start ≤ placed.2 := by
  induction fields generalizing start with
  | nil => exact ⟨placed_nil, by simp [StartsAt], by simp [EndsWithin], le_rfl⟩
  | cons field fields ih =>
      let offset := roundUp start (layout.alignOf field)
      have reached : start ≤ offset := le_roundUp (layout.alignOf_pos field)
      obtain ⟨placed, starts, ends, grows⟩ := ih (offset + layout.sizeOf field)
      refine ⟨placed_cons_iff.2 ⟨dvd_roundUp _ _, starts, placed⟩, ?_, ?_, ?_⟩
      · refine startsAt_cons_iff.2 ⟨reached, fun slot member => ?_⟩
        exact (reached.trans (Nat.le_add_right _ _)).trans (starts slot member)
      · exact endsWithin_cons_iff.2 ⟨grows, ends⟩
      · exact (reached.trans (Nat.le_add_right _ _)).trans grows

/-- Every placement of the fields from an offset on lies behind the one by rounding up, so that
whatever holds the former holds the latter. -/
theorem place_least (placed : layout.Placed fields offsets)
    (starts : StartsAt fields offsets start) :
    List.Forall₂ (· ≤ ·) (layout.place start fields).1 offsets ∧
      ∀ size, start ≤ size → EndsWithin layout fields offsets size →
        (layout.place start fields).2 ≤ size := by
  induction fields generalizing offsets start with
  | nil =>
      rw [List.eq_nil_of_length_eq_zero placed.length]
      exact ⟨.nil, fun size enough _ => enough⟩
  | cons field fields ih =>
      obtain ⟨offset, offsets, rfl⟩ := List.exists_cons_of_length_eq_add_one placed.length
      obtain ⟨aligned, behind, placed⟩ := placed_cons_iff.1 placed
      have least : roundUp start (layout.alignOf field) ≤ offset :=
        (roundUp_le_iff (layout.alignOf_pos field) aligned).2 (startsAt_cons_iff.1 starts).1
      -- The rest may start a little earlier than it does behind the given offset.
      have earlier : roundUp start (layout.alignOf field) + layout.sizeOf field ≤
          offset + layout.sizeOf field := Nat.add_le_add_right least _
      obtain ⟨below, short⟩ := ih placed fun slot member => earlier.trans (behind slot member)
      refine ⟨.cons least below, fun size _ ends => ?_⟩
      obtain ⟨first, ends⟩ := endsWithin_cons_iff.1 ends
      exact short size (earlier.trans first) ends

theorem place_append (layout : DataLayout) (fields more : List Scalar) (start : Nat) :
    (layout.place start (fields ++ more)).1 =
      (layout.place start fields).1 ++ (layout.place (layout.place start fields).2 more).1 := by
  induction fields generalizing start with
  | nil => rfl
  | cons field fields ih => exact congrArg (_ :: ·) (ih _)

theorem foldl_max_le_iff {α : Type} (bytes : α → Nat) (items : List α) {first bound : Nat} :
    items.foldl (fun most item => max most (bytes item)) first ≤ bound ↔
      first ≤ bound ∧ ∀ item ∈ items, bytes item ≤ bound := by
  induction items generalizing first with
  | nil => simp
  | cons item items ih => rw [List.foldl_cons, ih, max_le_iff, List.forall_mem_cons, and_assoc]

theorem foldl_max_mem {α : Type} (bytes : α → Nat) (items : List α) (first : Nat) :
    items.foldl (fun most item => max most (bytes item)) first ∈ first :: items.map bytes := by
  induction items generalizing first with
  | nil => exact List.mem_cons_self
  | cons item items ih =>
      rw [List.foldl_cons, List.map_cons]
      rcases List.mem_cons.1 (ih (max first (bytes item))) with same | later
      · rw [same]
        rcases max_choice first (bytes item) with kept | taken
        · simp [kept]
        · simp [taken]
      · exact List.mem_cons_of_mem _ (List.mem_cons_of_mem _ later)

theorem alignOf_le_structAlign {field : Scalar} (member : field ∈ fields) :
    layout.alignOf field ≤ layout.structAlign fields :=
  ((foldl_max_le_iff layout.alignOf fields).1 le_rfl).2 field member

theorem structAlign_pos (layout : DataLayout) (fields : List Scalar) :
    0 < layout.structAlign fields :=
  ((foldl_max_le_iff layout.alignOf fields).1 le_rfl).1

theorem finish_le_size (layout : DataLayout) (fields : List Scalar) :
    (layout.place 0 fields).2 ≤ (layout.placeStruct fields).size :=
  le_roundUp (layout.structAlign_pos fields)

theorem structAlign_greatest (filled : fields ≠ []) :
    IsGreatest {bytes | ∃ field ∈ fields, layout.alignOf field = bytes}
      (layout.structAlign fields) := by
  constructor
  · obtain ⟨field, rest, rfl⟩ := List.exists_cons_of_ne_nil filled
    have member := foldl_max_mem layout.alignOf (field :: rest) 1
    rcases List.mem_cons.1 member with one | listed
    · -- No field asks for more than the one byte that every field asks for.
      refine ⟨field, List.mem_cons_self, le_antisymm (alignOf_le_structAlign List.mem_cons_self) ?_⟩
      exact one.le.trans (layout.alignOf_pos field)
    · exact List.mem_map.1 listed
  · rintro bytes ⟨field, member, rfl⟩
    exact alignOf_le_structAlign member

theorem sizeOf_le (layout : DataLayout) (scalar : Scalar) : layout.sizeOf scalar ≤ 2 ^ 29 := by
  cases scalar with
  | ptr =>
      have word := layout.pointerBits.toNat_lt
      rw [sizeOf]
      omega
  | _ => simp [sizeOf]

theorem alignOf_le (layout : DataLayout) (scalar : Scalar) : layout.alignOf scalar ≤ 2 ^ 29 := by
  have word := (layout.alignBits scalar).toNat_lt
  rw [alignOf]
  omega

theorem place_le (layout : DataLayout) (fields : List Scalar) (start : Nat) :
    (layout.place start fields).2 ≤ start + fields.length * 2 ^ 30 := by
  induction fields generalizing start with
  | nil => exact Nat.le_add_right _ _
  | cons field fields ih =>
      let offset := roundUp start (layout.alignOf field)
      have gap : offset < start + layout.alignOf field := roundUp_lt (layout.alignOf_pos field)
      have align := layout.alignOf_le field
      have size := layout.sizeOf_le field
      calc (layout.place start (field :: fields)).2
        _ = (layout.place (offset + layout.sizeOf field) fields).2 := rfl
        _ ≤ offset + layout.sizeOf field + fields.length * 2 ^ 30 := ih _
        _ ≤ start + (fields.length + 1) * 2 ^ 30 := by omega

theorem size_placeStruct_lt (few : fields.length < 2 ^ 34) :
    (layout.placeStruct fields).size < 2 ^ 64 := by
  have finish := layout.place_le fields 0
  have align : layout.structAlign fields ≤ 2 ^ 29 :=
    (foldl_max_le_iff layout.alignOf fields).2 ⟨by decide, fun field _ => layout.alignOf_le field⟩
  have rounded : (layout.placeStruct fields).size <
      (layout.place 0 fields).2 + layout.structAlign fields :=
    roundUp_lt (layout.structAlign_pos fields)
  omega

theorem placeStruct_least (layout : DataLayout) (fields : List Scalar) :
    let placement := layout.placeStruct fields
    layout.Placed fields placement.offsets ∧
    (fields = [] → placement.align = 1) ∧
    (fields ≠ [] →
      IsGreatest {bytes | ∃ field ∈ fields, layout.alignOf field = bytes} placement.align) ∧
    placement.align ∣ placement.size ∧
    layout.EndsWithin fields placement.offsets placement.size ∧
    (∀ offsets, layout.Placed fields offsets →
      List.Forall₂ (· ≤ ·) placement.offsets offsets ∧
      ∀ size, placement.align ∣ size → layout.EndsWithin fields offsets size →
        placement.size ≤ size) ∧
    ∀ more, placement.offsets <+: (layout.placeStruct (fields ++ more)).offsets := by
  intro placement
  obtain ⟨placed, -, ends, -⟩ := layout.place_fits fields 0
  have positive : 0 < placement.align := layout.structAlign_pos fields
  have rounded : (layout.place 0 fields).2 ≤ placement.size := le_roundUp positive
  refine ⟨placed, ?_, structAlign_greatest, dvd_roundUp _ _, ?_, ?_, ?_⟩
  · rintro rfl
    rfl
  · exact fun slot member => (ends slot member).trans rounded
  · intro offsets other
    obtain ⟨below, short⟩ := place_least other fun slot _ => Nat.zero_le slot.2
    refine ⟨below, fun size multiple holds => ?_⟩
    exact (roundUp_le_iff positive multiple).2 (short size (Nat.zero_le size) holds)
  · intro more
    exact ⟨_, (layout.place_append fields more 0).symm⟩

example : ({ source := "" } : DataLayout).placeStruct [.i8, .i32, .i8] = ⟨[0, 4, 8], 12, 4⟩ := by
  decide

end DataLayout

end Lanewise
