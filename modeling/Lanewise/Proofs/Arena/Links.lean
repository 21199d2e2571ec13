import Lanewise.Arena.Linked
import Lanewise.Proofs.Arena.Counts
import Lanewise.Proofs.Text.Number
import Std.Data.String.ToNat

namespace Lanewise

namespace Arena

variable {κ α : Type} [DecidableEq κ]

theorem exists_of_getElem?_filter {objects : List (κ × α)} {kind : κ} {index : Nat} {object : α}
    (found : ((objects.filter (·.1 = kind)).map (·.2))[index]? = some object) :
    ∃ before rest, objects = before ++ (kind, object) :: rest ∧
      (before.filter (·.1 = kind)).length = index := by
  induction objects generalizing index with
  | nil => simp at found
  | cons first objects ih =>
      by_cases same : first.1 = kind
      · cases index with
        | zero =>
            refine ⟨[], objects, ?_, rfl⟩
            simp only [same, decide_true, List.filter_cons_of_pos, List.map_cons,
              List.getElem?_cons_zero, Option.some.injEq] at found
            rw [← same, ← found, List.nil_append]
        | succ index =>
            simp only [same, decide_true, List.filter_cons_of_pos, List.map_cons,
              List.getElem?_cons_succ] at found
            obtain ⟨before, rest, rfl, place⟩ := ih found
            exact ⟨first :: before, rest, rfl, by simp [same, place]⟩
      · rw [List.filter_cons_of_neg (by simpa using same)] at found
        obtain ⟨before, rest, rfl, place⟩ := ih found
        exact ⟨first :: before, rest, rfl, by simp [same, place]⟩

variable [Hashable κ]

theorem objects_modify {arena after : Arena κ α} {id : ObjectId κ} {change : α → α}
    (modified : arena.modify? id change = some after) (kind : κ) :
    ∃ object, arena.get? id = some object ∧ after.order = arena.order ∧
      after.epoch = arena.epoch ∧ (kind ∈ after.shelves ↔ kind ∈ arena.shelves) ∧
      after.objects kind = if id.kind = kind
        then (arena.objects kind).setIfInBounds id.index (change object)
        else arena.objects kind := by
  obtain ⟨object, live, rfl⟩ := Option.map_eq_some_iff.1 modified
  refine ⟨object, live, rfl, rfl, ?_, ?_⟩
  · have shelved : id.kind ∈ arena.shelves := by
      by_contra absent
      rw [get?, objects, Std.HashMap.getElem?_eq_none absent] at live
      simp at live
    rw [Std.HashMap.mem_insert, beq_iff_eq, or_iff_right_of_imp]
    rintro rfl
    exact shelved
  · by_cases same : id.kind = kind
    · simp [objects, same]
    · simp [objects, same, Std.HashMap.getElem?_insert]

theorem get?_register (arena : Arena κ α) (kind : κ) (object : α) (id : ObjectId κ) :
    (arena.register kind object).2.get? id =
      if id = (arena.register kind object).1 then some object else arena.get? id := by
  obtain ⟨idKind, index, epoch⟩ := id
  rw [get?, get?, objects_register]
  by_cases same : kind = idKind
  · subst same
    by_cases current : epoch = arena.epoch
    · simp [register, current, Array.getElem?_push]
    · simp [register, current]
  · simp [register, same, Ne.symm same]

theorem get?_modify {arena after : Arena κ α} {id : ObjectId κ} {change : α → α}
    (modified : arena.modify? id change = some after) (other : ObjectId κ) :
    after.get? other = if other = id then (arena.get? id).map change else arena.get? other := by
  obtain ⟨object, live, -, epoch, -, shelf⟩ := objects_modify modified other.kind
  obtain ⟨current, place⟩ : id.epoch = arena.epoch ∧
      (arena.objects id.kind)[id.index]? = some object := by
    simpa [get?] using live
  have inside := (Array.getElem?_eq_some_iff.1 place).1
  rw [get?, epoch, shelf, live]
  obtain ⟨kind, index, otherEpoch⟩ := other
  obtain ⟨idKind, idIndex, idEpoch⟩ := id
  subst current
  by_cases sameKind : idKind = kind
  · subst sameKind
    by_cases sameIndex : idIndex = index
    · subst sameIndex
      by_cases live : otherEpoch = arena.epoch <;> simp [live, get?, inside]
    · simp [get?, Array.getElem?_setIfInBounds_ne, sameIndex, Ne.symm sameIndex]
  · simp [get?, sameKind, Ne.symm sameKind]

namespace Holds

variable {arena after : Arena κ α} {objects : List (κ × α)} {id : ObjectId κ} {change : α → α}

theorem modify (holds : arena.Holds objects) (modified : arena.modify? id change = some after) :
    ∃ before object rest, objects = before ++ (id.kind, object) :: rest ∧
      (before.filter (·.1 = id.kind)).length = id.index ∧
      after.Holds (before ++ (id.kind, change object) :: rest) := by
  obtain ⟨object, live, order, -, -, -⟩ := objects_modify modified id.kind
  have found := live
  rw [holds.get?] at found
  split at found
  · obtain ⟨before, rest, rfl, place⟩ := exists_of_getElem?_filter found
    have kinds : (before ++ (id.kind, change object) :: rest).map (·.1) =
        (before ++ (id.kind, object) :: rest).map (·.1) := by simp
    refine ⟨before, object, rest, rfl, place, ?_, ?_, ?_, ?_⟩
    · intro kind
      obtain ⟨object', live', -, -, -, shelf⟩ := objects_modify modified kind
      cases live.symm.trans live'
      rw [shelf]
      by_cases same : id.kind = kind
      · subst same
        rw [if_pos rfl, Array.toList_setIfInBounds, holds.shelf, ← place]
        simp
      · rw [if_neg same, holds.shelf]
        simp [same]
    · intro kind
      obtain ⟨-, -, -, -, shelved, -⟩ := objects_modify modified kind
      rw [shelved, holds.shelved, kinds]
    · rw [order, holds.order, kinds]
    · intro nothing
      simp at nothing
  · cases found

theorem display [Keyword κ] (holds : arena.Holds objects) :
    arena.display = "Bookkeeper \x7b kinds: [" ++
      String.intercalate ", " ((objects.map (·.1)).eraseDups.map fun kind =>
        "\"" ++ Keyword.word kind ++ "\"") ++
      "], total: " ++ toString objects.length ++ ", epoch: " ++ toString arena.epoch
        ++ " \x7d" := by
  unfold Arena.display
  rw [holds.kinds, holds.order, holds.total]

end Holds

/-! ## Following references -/

variable {arena after : Arena κ (Linked κ)} {id next : ObjectId κ} {limit : Nat}

def next? (arena : Arena κ (Linked κ)) (id : ObjectId κ) : Option (ObjectId κ) :=
  (arena.get? id).bind (·.next)

def stop (arena : Arena κ (Linked κ)) (id : ObjectId κ) : Stop κ :=
  (arena.get? id).elim .released fun object => .object id.kind object.name

def reach (arena : Arena κ (Linked κ)) : Nat → ObjectId κ → Option (ObjectId κ)
  | 0, id => some id
  | n + 1, id => (arena.next? id).bind (arena.reach n)

@[simp] theorem stop_eq_released_iff : arena.stop id = .released ↔ arena.get? id = none := by
  cases resolved : arena.get? id <;> simp [stop, resolved]

theorem walk_succ (arena : Arena κ (Linked κ)) (limit : Nat) (id : ObjectId κ) :
    arena.walk (limit + 1) id =
      arena.stop id :: ((arena.next? id).map (arena.walk limit)).getD [] := by
  cases resolved : arena.get? id <;> simp [walk, stop, next?, resolved]

theorem getElem?_walk (arena : Arena κ (Linked κ)) (limit n : Nat) (id : ObjectId κ) :
    (arena.walk limit id)[n]? = if n < limit then (arena.reach n id).map arena.stop else none := by
  induction limit generalizing n id with
  | zero => simp [walk]
  | succ limit ih =>
      rw [walk_succ]
      cases n with
      | zero => simp [reach]
      | succ n =>
          cases refers : arena.next? id <;> simp [reach, refers, ih]

theorem length_walk_le (arena : Arena κ (Linked κ)) (limit : Nat) (id : ObjectId κ) :
    (arena.walk limit id).length ≤ limit := by
  rw [← List.getElem?_eq_none_iff, getElem?_walk, if_neg (Nat.lt_irrefl limit)]

theorem take_walk {more : Nat} (longer : limit ≤ more) (arena : Arena κ (Linked κ))
    (id : ObjectId κ) : (arena.walk more id).take limit = arena.walk limit id := by
  apply List.ext_getElem?
  intro n
  rw [List.getElem?_take, getElem?_walk, getElem?_walk]
  split
  · rw [if_pos (by omega)]
  · rfl

theorem walk_of_next_self (itself : arena.next? id = some id) (limit : Nat) :
    arena.walk limit id = List.replicate limit (arena.stop id) := by
  induction limit with
  | zero => rfl
  | succ limit ih =>
      rw [walk_succ, itself, Option.map_some, Option.getD_some, ih, List.replicate_succ]

theorem walk_stale (stale : arena.get? id = none) (limit : Nat) :
    arena.walk (limit + 1) id = [.released] := by
  rw [walk_succ, stop_eq_released_iff.2 stale, next?, stale]
  rfl

/-! ## References that resolve -/

def Closed (arena : Arena κ (Linked κ)) : Prop :=
  ∀ id next, arena.next? id = some next → (arena.get? next).isSome

theorem closed_iff : arena.Closed ↔
    ∀ id, (arena.get? id).isSome → ∀ limit, .released ∉ arena.walk limit id := by
  constructor
  · intro closed id live limit
    induction limit generalizing id with
    | zero => exact List.not_mem_nil
    | succ limit ih =>
        rw [walk_succ, List.mem_cons, not_or]
        refine ⟨fun released => ?_, ?_⟩
        · rw [stop_eq_released_iff.1 released.symm] at live
          cases live
        · cases refers : arena.next? id with
          | none => simp
          | some next => exact ih next (closed id next refers)
  · intro unreleased id next refers
    have live : (arena.get? id).isSome := by
      cases resolved : arena.get? id with
      | none => simp [next?, resolved] at refers
      | some object => rfl
    by_contra stale
    rw [Option.not_isSome_iff_eq_none] at stale
    -- A walk of two steps meets what the object refers to.
    apply unreleased id live 2
    rw [walk_succ, refers, Option.map_some, Option.getD_some, walk_stale stale]
    simp

theorem next?_link (made : arena.link? id next = some after) (other : ObjectId κ) :
    after.next? other = if other = id then some next else arena.next? other := by
  rw [next?, get?_modify made]
  split
  · obtain ⟨object, live, -⟩ := Option.map_eq_some_iff.1 made
    rw [live]
    rfl
  · rfl

theorem isSome_get?_link (made : arena.link? id next = some after) (other : ObjectId κ) :
    (after.get? other).isSome = (arena.get? other).isSome := by
  rw [get?_modify made]
  split
  · next same => rw [same, Option.isSome_map]
  · rfl

/-- Arenas whose references were made to objects that were still there. -/
inductive Woven : Arena κ (Linked κ) → Prop where
  | empty : Woven .empty
  | register {arena : Arena κ (Linked κ)} (woven : Woven arena) (kind : κ) (name : String) :
      Woven (arena.register kind { name }).2
  | link {arena linked : Arena κ (Linked κ)} {id next : ObjectId κ} (woven : Woven arena)
      (live : (arena.get? next).isSome) (made : arena.link? id next = some linked) : Woven linked
  | drain {arena : Arena κ (Linked κ)} (woven : Woven arena) : Woven arena.drain.2

theorem get?_bare (epoch : UInt64) (id : ObjectId κ) :
    (⟨∅, [], epoch⟩ : Arena κ α).get? id = none := by
  simp [get?, objects]

theorem closed_bare (epoch : UInt64) : (⟨∅, [], epoch⟩ : Arena κ (Linked κ)).Closed := by
  intro id next refers
  rw [next?, get?_bare] at refers
  cases refers

theorem Closed.register (closed : arena.Closed) (kind : κ) (name : String) :
    (arena.register kind { name }).2.Closed := by
  intro id next refers
  rw [next?, get?_register] at refers
  rw [get?_register]
  split at refers
  · -- A new object refers to nothing.
    cases refers
  · have live := closed id next refers
    split
    · rfl
    · exact live

theorem Closed.link (closed : arena.Closed) (live : (arena.get? next).isSome)
    (made : arena.link? id next = some after) : after.Closed := by
  intro other target refers
  rw [next?_link made] at refers
  rw [isSome_get?_link made]
  split at refers
  · cases refers
    exact live
  · exact closed other target refers

namespace Woven

theorem closed (woven : Woven arena) : arena.Closed := by
  induction woven with
  | empty => exact closed_bare 0
  | register woven kind name ih => exact ih.register kind name
  | link woven live made ih => exact ih.link live made
  | drain woven ih => exact closed_bare _

theorem holds (woven : Woven arena) : ∃ objects, arena.Holds objects := by
  induction woven with
  | empty => exact ⟨[], holds_empty 0⟩
  | register woven kind name ih =>
      obtain ⟨objects, holds⟩ := ih
      exact ⟨_, holds.register kind _⟩
  | link woven live made ih =>
      obtain ⟨objects, holds⟩ := ih
      obtain ⟨before, object, rest, -, -, holds⟩ := holds.modify made
      exact ⟨_, holds⟩
  | drain woven ih => exact ⟨[], holds_empty _⟩

/-- A walk from an object that is still there meets objects only. After a release the id that it
started from leads nowhere, whatever is registered in its place. -/
theorem walk (woven : Woven arena) (live : (arena.get? id).isSome) (limit : Nat) :
    .released ∉ arena.walk limit id ∧
      ∀ later : Arena κ (Linked κ), later.epoch = arena.drain.2.epoch →
        later.walk (limit + 1) id = [.released] := by
  obtain ⟨objects, holds⟩ := woven.holds
  refine ⟨closed_iff.1 woven.closed id live limit, fun later renewed => walk_stale ?_ limit⟩
  have current : id.epoch = arena.epoch := by
    by_contra stale
    rw [get?, if_neg stale] at live
    cases live
  have some_object : objects ≠ [] := by
    rintro rfl
    rw [holds.get?] at live
    simp at live
  rw [get?, if_neg]
  rw [renewed, holds.drain, if_neg some_object, current]
  simp

end Woven

end Arena

/-! ## In one line -/

theorem append_cons_inj {c : Char} {front front' rest rest' : List Char} (absent : c ∉ front)
    (absent' : c ∉ front') (same : front ++ c :: rest = front' ++ c :: rest') :
    front = front' ∧ rest = rest' := by
  induction front generalizing front' with
  | nil =>
      cases front' with
      | nil => exact ⟨rfl, (List.cons.inj same).2⟩
      | cons d front' => exact absurd ((List.cons.inj same).1 ▸ List.mem_cons_self) absent'
  | cons d front ih =>
      cases front' with
      | nil => exact absurd ((List.cons.inj same).1 ▸ List.mem_cons_self) absent
      | cons e front' =>
          obtain ⟨rfl, later⟩ := List.cons.inj same
          obtain ⟨rfl, rfl⟩ := ih (List.not_mem_of_not_mem_cons absent)
            (List.not_mem_of_not_mem_cons absent') later
          exact ⟨rfl, rfl⟩

theorem notMem_repr {c : Char} (apart : c.isDigit = false) (n : Nat) : c ∉ n.repr.toList := by
  rw [Nat.toList_repr]
  exact fun listed => Parser.ne_of_apart c (Text.isDigit_toDigits n c listed) apart rfl

namespace ObjectKind

theorem word_injective : Function.Injective (Keyword.word : ObjectKind → String) := by
  intro first second
  cases first <;> cases second <;> decide

theorem notMem_word {c : Char} (apart : c.isAlpha = false) (kind : ObjectKind) :
    c ∉ (Keyword.word kind).toList := by
  have letters : (Keyword.word kind).toList.all Char.isAlpha := by cases kind <;> decide
  exact fun listed => Parser.ne_of_apart c (List.all_eq_true.1 letters c listed) apart rfl

end ObjectKind

theorem ObjectId.toList_display {κ : Type} [Keyword κ] (id : ObjectId κ) :
    id.display.toList = "TraceId<".toList ++ ((Keyword.word id.kind).toList ++ '>' :: '(' ::
      (id.index.repr.toList ++ '@' :: (id.epoch.toNat.repr.toList ++ [')']))) := by
  change ("TraceId<" ++ Keyword.word id.kind ++ ">(" ++ id.index.repr ++ "@" ++
    id.epoch.toNat.repr ++ ")").toList = _
  simp only [String.toList_append, List.append_assoc]
  rfl

theorem ObjectId.display_injective :
    Function.Injective (ObjectId.display : ObjectId ObjectKind → String) := by
  rintro ⟨kind, index, epoch⟩ ⟨kind', index', epoch'⟩ same
  have spelled := congrArg String.toList same
  rw [toList_display, toList_display, List.append_cancel_left_eq] at spelled
  obtain ⟨words, rest⟩ := append_cons_inj (ObjectKind.notMem_word rfl _)
    (ObjectKind.notMem_word rfl _) spelled
  obtain ⟨indices, rest⟩ := append_cons_inj (notMem_repr rfl _) (notMem_repr rfl _)
    (List.cons.inj rest).2
  have epochs := Nat.repr_inj.1 (String.toList_inj.1 (List.append_cancel_right rest))
  obtain rfl := ObjectKind.word_injective (String.toList_inj.1 words)
  obtain rfl := Nat.repr_inj.1 (String.toList_inj.1 indices)
  obtain rfl := UInt64.toNat_inj.1 epochs
  rfl

theorem Linked.display_inj {id id' : ObjectId ObjectKind} {object object' : Linked ObjectKind}
    (same : Linked.display id object = Linked.display id' object') :
    id = id' ∧ object.name = object'.name := by
  have comma : ∀ id : ObjectId ObjectKind, ',' ∉ id.display.toList := by
    intro id listed
    rw [ObjectId.toList_display] at listed
    have word := ObjectKind.notMem_word (c := ',') rfl id.kind
    have index := notMem_repr (c := ',') rfl id.index
    have epoch := notMem_repr (c := ',') rfl id.epoch.toNat
    simp only [List.mem_append, List.mem_cons, word, index, epoch] at listed
    revert listed
    decide
  have spelled := congrArg String.toList same
  simp only [Linked.display, String.toList_append, List.append_assoc,
    List.append_cancel_left_eq] at spelled
  obtain ⟨ids, rest⟩ := append_cons_inj (comma id) (comma id') spelled
  refine ⟨ObjectId.display_injective (String.toList_inj.1 ids), ?_⟩
  exact String.toList_inj.1 (List.append_cancel_right (List.append_cancel_left rest))

end Lanewise
