import Lanewise.Binary64
import Lanewise.Keyword

namespace Lanewise

inductive Document where
  | null
  | bool (value : Bool)
  | int (value : Int)
  | float (bits : Nat)
  | text (value : String)
  /-- A date, a time, or both. Nothing that is read from a document has such a value. -/
  | moment
  | seq (items : List Document)
  | sections (items : List Document)
  | map (entries : List (String × Document))

inductive DocumentFormat where
  | json
  | toml
  deriving DecidableEq, Repr

namespace Document

def nat (n : Nat) : Document := .int n

def word (n : UInt32) : Document := .nat n.toNat

def keyword {α : Type} [Keyword α] (value : α) : Document := .text (Keyword.word value)

def texts (values : List String) : Document := .seq (values.map .text)

def words (values : List UInt32) : Document := .seq (values.map .word)

def textMap (entries : List (String × String)) : Document :=
  .map (entries.map fun entry => (entry.1, .text entry.2))

def nullable {α : Type} (write : α → Document) : Option α → Document
  | some value => write value
  | none => .null

def entry? {α : Type} (key : String) (write : α → Document) (value : Option α) :
    List (String × Document) :=
  (value.map fun value => (key, write value)).toList

def get? (key : String) : Document → Option Document
  | .map entries => (entries.find? fun entry => entry.1 == key).map (·.2)
  | _ => none

end Document

end Lanewise
