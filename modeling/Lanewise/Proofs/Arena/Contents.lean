import Lanewise.Arena.Basic
import Mathlib.Data.List.Perm.Basic
import Mathlib.Data.List.Perm.Lattice
import Std.Data.HashMap.Lemmas

/-!
# What an arena holds

The shelves and the order of an arena are two views of one list: its objects in the order of
registration. `Arena.Holds` ties them together, and every answer of the arena follows from the list.
-/

namespace Lanewise

namespace Arena

variable {κ α : Type} [DecidableEq κ]

def byKind (objects : List (κ × α)) : List (κ × α) :=
  (objects.map (·.1)).eraseDups.flatMap fun kind => objects.filter (·.1 = kind)

theorem nodup_eraseDups (kinds : List κ) : kinds.eraseDups.Nodup := by
  match kinds with
  | [] => simp
  | kind :: rest =>
      have shorter : (rest.filter fun other => !other == kind).length < rest.length + 1 :=
        Nat.lt_succ_of_le (List.length_filter_le _ rest)
      rw [List.eraseDups_cons, List.nodup_cons]
      exact ⟨by simp, nodup_eraseDups _⟩
termination_by kinds.length

theorem flatMap_kinds_perm (kinds : List κ) (objects : List (κ × α)) (distinct : kinds.Nodup)
    (covered : ∀ object ∈ objects, object.1 ∈ kinds) :
    (kinds.flatMap fun kind => objects.filter (·.1 = kind)).Perm objects := by
  induction kinds generalizing objects with
  | nil =>
      have none : objects = [] := List.eq_nil_iff_forall_not_mem.2 fun object member => by
        simpa using covered object member
      simp [none]
  | cons kind kinds ih =>
      have fresh := (List.nodup_cons.1 distinct).1
      -- The objects of the other kinds do not change when those of the first kind are taken out.
      have others : (kinds.flatMap fun other => objects.filter (·.1 = other)) =
          kinds.flatMap fun other =>
            (objects.filter fun object => !decide (object.1 = kind)).filter (·.1 = other) := by
        apply List.flatMap_congr
        intro other member
        rw [List.filter_filter]
        apply List.filter_congr
        intro object _
        by_cases same : object.1 = other
        · have different : other ≠ kind := fun equal => fresh (equal ▸ member)
          simp [same, different]
        · simp [same]
      have remaining : ∀ object ∈ objects.filter fun object => !decide (object.1 = kind),
          object.1 ∈ kinds := by
        intro object member
        obtain ⟨member, different⟩ := List.mem_filter.1 member
        exact (List.mem_cons.1 (covered object member)).resolve_left (by simpa using different)
      rw [List.flatMap_cons, others]
      exact ((ih _ (List.nodup_cons.1 distinct).2 remaining).append_left _).trans
        (List.filter_append_perm _ objects)

theorem byKind_perm (objects : List (κ × α)) : (byKind objects).Perm objects := by
  apply flatMap_kinds_perm _ _ (nodup_eraseDups _)
  intro object member
  exact List.mem_eraseDups.2 (List.mem_map_of_mem member)

@[simp] theorem byKind_eq_nil {objects : List (κ × α)} : byKind objects = [] ↔ objects = [] := by
  constructor
  · intro nothing
    exact List.Perm.nil_eq (nothing ▸ byKind_perm objects) |>.symm
  · rintro rfl
    rfl

variable [Hashable κ]

/-- An arena holds these objects, registered in this order. -/
structure Holds (arena : Arena κ α) (objects : List (κ × α)) : Prop where
  shelf : ∀ kind, (arena.objects kind).toList = (objects.filter (·.1 = kind)).map (·.2)
  shelved : ∀ kind, kind ∈ arena.shelves ↔ kind ∈ objects.map (·.1)
  order : arena.order = (objects.map (·.1)).eraseDups
  bare : objects = [] → arena.shelves = ∅

theorem holds_empty (epoch : UInt64) : (⟨∅, [], epoch⟩ : Arena κ α).Holds [] where
  shelf kind := by simp [Arena.objects]
  shelved kind := by simp
  order := by simp
  bare _ := rfl

theorem objects_register (arena : Arena κ α) (kind other : κ) (object : α) :
    (arena.register kind object).2.objects other =
      if kind = other then (arena.objects kind).push object else arena.objects other := by
  by_cases same : kind = other
  · simp [register, Arena.objects, same]
  · simp [register, Arena.objects, Std.HashMap.getElem?_insert, same]

namespace Holds

variable {arena : Arena κ α} {objects : List (κ × α)}

theorem register (holds : arena.Holds objects) (kind : κ) (object : α) :
    (arena.register kind object).2.Holds (objects ++ [(kind, object)]) where
  shelf other := by
    rw [objects_register]
    by_cases same : kind = other
    · subst same
      simp [holds.shelf]
    · simp [holds.shelf, same]
  shelved other := by
    rw [List.map_append, List.mem_append, ← holds.shelved other]
    simp only [Arena.register, Std.HashMap.mem_insert, beq_iff_eq, List.map_cons, List.map_nil,
      List.mem_singleton]
    rw [or_comm, eq_comm]
  order := by
    rw [List.map_append, List.eraseDups_append, ← holds.order]
    by_cases listed : kind ∈ objects.map (·.1)
    · have shelved : arena.shelves.contains kind := (holds.shelved kind).2 listed
      rw [List.map_singleton, List.removeAll, List.filter_eq_nil_iff.2 (by simpa using listed)]
      simp [Arena.register, shelved]
    · have unshelved : ¬arena.shelves.contains kind := fun shelved =>
        listed ((holds.shelved kind).1 shelved)
      rw [List.map_singleton, List.removeAll, List.filter_eq_self.2 (by simpa using listed)]
      simp [Arena.register, unshelved, List.eraseDups_cons]
  bare impossible := by simp at impossible

theorem count (holds : arena.Holds objects) (kind : κ) :
    arena.count kind = objects.countP (·.1 = kind) := by
  rw [Arena.count, ← Array.length_toList, holds.shelf, List.length_map,
    List.countP_eq_length_filter]

theorem register_id (holds : arena.Holds objects) (kind : κ) (object : α) :
    (arena.register kind object).1 = ⟨kind, objects.countP (·.1 = kind), arena.epoch⟩ := by
  rw [← holds.count kind]
  rfl

theorem get? (holds : arena.Holds objects) (id : ObjectId κ) :
    arena.get? id = if id.epoch = arena.epoch then
      ((objects.filter (·.1 = id.kind)).map (·.2))[id.index]? else none := by
  rw [Arena.get?, ← holds.shelf id.kind, Array.getElem?_toList]

theorem contents (holds : arena.Holds objects) : arena.contents = byKind objects := by
  rw [Arena.contents, byKind, holds.order]
  apply List.flatMap_congr
  intro kind _
  rw [holds.shelf kind, List.map_map]
  have unchanged : ∀ object ∈ objects.filter (·.1 = kind), (kind, object.2) = id object := by
    intro object member
    have same : object.1 = kind := by simpa using (List.mem_filter.1 member).2
    rw [← same, id]
  exact (List.map_congr_left unchanged).trans (List.map_id _)

theorem drain (holds : arena.Holds objects) :
    arena.drain = (byKind objects,
      ⟨∅, [], if objects = [] then arena.epoch else arena.epoch + 1⟩) := by
  rw [Arena.drain, holds.contents]
  simp [List.isEmpty_iff]

theorem drain_nil (holds : arena.Holds []) : arena.drain = ([], arena) := by
  have shelves := holds.bare rfl
  have order : arena.order = [] := holds.order
  rw [holds.drain, if_pos rfl, ← shelves, ← order]
  rfl

theorem mem_order_iff (holds : arena.Holds objects) {kind : κ} :
    kind ∈ arena.order ↔ kind ∈ objects.map (·.1) := by
  rw [holds.order, List.mem_eraseDups]

theorem nodup_order (holds : arena.Holds objects) : arena.order.Nodup := by
  rw [holds.order]
  exact nodup_eraseDups _

theorem keys_perm (holds : arena.Holds objects) : arena.shelves.keys.Perm arena.order := by
  refine (List.perm_ext_iff_of_nodup Std.HashMap.nodup_keys holds.nodup_order).2 fun kind => ?_
  rw [Std.HashMap.mem_keys, holds.mem_order_iff, holds.shelved]

theorem total (holds : arena.Holds objects) : arena.total = objects.length := by
  have sizes : arena.shelves.toList.map (·.2.size) = arena.shelves.keys.map arena.count := by
    rw [← Std.HashMap.map_fst_toList_eq_keys, List.map_map]
    apply List.map_congr_left
    rintro ⟨kind, shelf⟩ member
    have found : arena.shelves[kind]? = some shelf :=
      Std.HashMap.mem_toList_iff_getElem?_eq_some.1 member
    simp [Arena.count, Arena.objects, found]
  calc arena.total = (arena.shelves.toList.map (·.2.size)).sum := by
        rw [Arena.total, Std.HashMap.fold_eq_foldl_toList, List.sum_eq_foldl_nat, List.foldl_map]
    _ = (arena.shelves.keys.map arena.count).sum := by rw [sizes]
    _ = (arena.order.map arena.count).sum := (holds.keys_perm.map _).sum_nat
    _ = arena.contents.length := by
        simp only [Arena.contents, List.length_flatMap, List.length_map, Array.length_toList]
        rfl
    _ = objects.length := by rw [holds.contents, (byKind_perm objects).length_eq]

theorem isEmpty_iff (holds : arena.Holds objects) : arena.isEmpty ↔ objects = [] := by
  rw [Arena.isEmpty, beq_iff_eq, holds.total, List.length_eq_zero_iff]

end Holds

end Arena

end Lanewise
