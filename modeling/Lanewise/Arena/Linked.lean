import Lanewise.Arena.Basic
import Lanewise.Keyword

namespace Lanewise

inductive ObjectKind where
  | function
  | symbol
  | type
  | stmt
  deriving DecidableEq, Hashable, Repr

namespace ObjectKind

instance : Keyword ObjectKind where
  all := [function, symbol, type, stmt]
  word
    | function => "Function"
    | symbol => "Symbol"
    | type => "Type"
    | stmt => "Stmt"

end ObjectKind

structure Linked (κ : Type) where
  name : String
  next : Option (ObjectId κ) := none
  deriving DecidableEq, Repr

inductive Stop (κ : Type) where
  | object (kind : κ) (name : String)
  | released
  deriving DecidableEq, Repr

namespace Arena

variable {κ : Type} [DecidableEq κ] [Hashable κ]

def link? (arena : Arena κ (Linked κ)) (id next : ObjectId κ) : Option (Arena κ (Linked κ)) :=
  arena.modify? id fun object => { object with next := some next }

def walk (arena : Arena κ (Linked κ)) : Nat → ObjectId κ → List (Stop κ)
  | 0, _ => []
  | limit + 1, id =>
      match arena.get? id with
      | none => [.released]
      | some object =>
          .object id.kind object.name :: (object.next.map (arena.walk limit)).getD []

end Arena

def ObjectId.display {κ : Type} [Keyword κ] (id : ObjectId κ) : String :=
  "TraceId<" ++ Keyword.word id.kind ++ ">(" ++ toString id.index ++ "@" ++ toString id.epoch ++ ")"

def Linked.display {κ : Type} [Keyword κ] (id : ObjectId κ) (object : Linked κ) : String :=
  "Traced \x7b id: " ++ id.display ++ ", object: " ++ object.name ++ " \x7d"

def Arena.display {κ α : Type} [DecidableEq κ] [Hashable κ] [Keyword κ] (arena : Arena κ α) :
    String :=
  let kinds := arena.kinds.map fun kind => "\"" ++ Keyword.word kind ++ "\""
  "Bookkeeper \x7b kinds: [" ++ String.intercalate ", " kinds ++ "], total: "
    ++ toString arena.total ++ ", epoch: " ++ toString arena.epoch ++ " \x7d"

end Lanewise
