import Std.Data.HashMap

/-!
# Object arenas

An arena owns objects of several kinds that may refer to one another. An object stays until all of
them are released together, and is known by the position among its kind and the epoch in which it
was registered. Releasing objects begins a new epoch, so that an older id resolves to nothing.
-/

namespace Lanewise

structure ObjectId (κ : Type) where
  kind : κ
  index : Nat
  epoch : UInt64
  deriving DecidableEq, Repr

structure Arena (κ α : Type) [BEq κ] [Hashable κ] where
  shelves : Std.HashMap κ (Array α)
  order : List κ
  /-- The number of releases that gave up an object, as a 64-bit word. -/
  epoch : UInt64

namespace Arena

variable {κ α : Type} [DecidableEq κ] [Hashable κ]

def empty : Arena κ α := ⟨∅, [], 0⟩

def objects (arena : Arena κ α) (kind : κ) : Array α :=
  arena.shelves[kind]?.getD #[]

def count (arena : Arena κ α) (kind : κ) : Nat := (arena.objects kind).size

def total (arena : Arena κ α) : Nat :=
  arena.shelves.fold (fun total _ shelf => total + shelf.size) 0

def isEmpty (arena : Arena κ α) : Bool := arena.total == 0

def kinds (arena : Arena κ α) : List κ :=
  arena.order.filter arena.shelves.contains

def get? (arena : Arena κ α) (id : ObjectId κ) : Option α :=
  if id.epoch = arena.epoch then (arena.objects id.kind)[id.index]? else none

def register (arena : Arena κ α) (kind : κ) (object : α) : ObjectId κ × Arena κ α :=
  let shelf := arena.objects kind
  ({ kind, index := shelf.size, epoch := arena.epoch },
    { arena with
      shelves := arena.shelves.insert kind (shelf.push object)
      order := if arena.shelves.contains kind then arena.order else arena.order ++ [kind] })

def modify? (arena : Arena κ α) (id : ObjectId κ) (change : α → α) : Option (Arena κ α) :=
  (arena.get? id).map fun object =>
    let shelf := (arena.objects id.kind).setIfInBounds id.index (change object)
    { arena with shelves := arena.shelves.insert id.kind shelf }

def contents (arena : Arena κ α) : List (κ × α) :=
  arena.order.flatMap fun kind => (arena.objects kind).toList.map (kind, ·)

/-- The objects given up, and the arena without them. A release that gives up no object leaves the
epoch as it is. -/
def drain (arena : Arena κ α) : List (κ × α) × Arena κ α :=
  (arena.contents,
    ⟨∅, [], if arena.contents.isEmpty then arena.epoch else arena.epoch + 1⟩)

inductive Op (κ α : Type) where
  | register (kind : κ) (object : α)
  | release
  deriving DecidableEq, Repr

inductive Answer (κ α : Type) where
  | registered (id : ObjectId κ)
  | released (objects : List (κ × α))
  deriving DecidableEq, Repr

def step (arena : Arena κ α) : Op κ α → Answer κ α × Arena κ α
  | .register kind object =>
      let (id, arena) := arena.register kind object
      (.registered id, arena)
  | .release =>
      let (objects, arena) := arena.drain
      (.released objects, arena)

def run (arena : Arena κ α) : List (Op κ α) → List (Answer κ α) × Arena κ α
  | [] => ([], arena)
  | op :: rest =>
      let (answer, arena) := arena.step op
      let (answers, arena) := arena.run rest
      (answer :: answers, arena)

end Arena

end Lanewise
