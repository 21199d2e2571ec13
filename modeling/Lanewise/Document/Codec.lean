import Lanewise.Document.Misfit

namespace Lanewise

structure Codec (α : Type) where
  read : DocumentFormat → Document → Except Misfit α
  write : α → Document

namespace Codec

def mismatch {α : Type} (format : DocumentFormat) (document : Document) (expected : String) :
    Except Misfit α :=
  .error (.invalidType (.ofDocument format document) expected)

def bool : Codec Bool where
  read format
    | .bool value => .ok value
    | document => mismatch format document "a boolean"
  write := .bool

def textAs (expected : String) : Codec String where
  read format
    | .text value => .ok value
    | document => mismatch format document expected
  write := .text

def text : Codec String := textAs "a string"

def path : Codec String := textAs "path string"

def wordOfInt? (value : Int) : Option UInt32 :=
  if 0 ≤ value then Text.word? value.toNat else none

def word : Codec UInt32 where
  read format
    | .int value => orFail (.invalidValue (.int value) "u32") (wordOfInt? value)
    | document => mismatch format document "u32"
  write := .word

def readVariant {α : Type} [Keyword α] (name : String) : Except Misfit α :=
  orFail (.unknownVariant name (Keyword.words α)) (Keyword.ofWord? name)

def readContent (format : DocumentFormat) (document : Document) : Except Misfit Unit :=
  match format, document with
  | .json, .null => .ok ()
  | .json, document => mismatch .json document "unit"
  | .toml, .map [] | .toml, .seq [] | .toml, .sections [] => .ok ()
  | .toml, .map _ | .toml, .seq _ => .error .variantContent
  | .toml, .sections _ => .error .variantSections
  | .toml, .bool _ => .error (.notATable "boolean")
  | .toml, .int _ => .error (.notATable "integer")
  | .toml, .float _ => .error (.notATable "float")
  | .toml, .text _ => .error (.notATable "string")
  | .toml, _ => .error (.notATable "datetime")

def readKeyed {α : Type} [Keyword α] (format : DocumentFormat)
    (entries : List (String × Document)) : Except Misfit α :=
  match format, entries with
  | format, [(name, content)] => do
      let value ← readVariant name
      readContent format content
      return value
  | .json, _ => .error (.invalidValue .map "map with a single key")
  | .toml, [] => .error .noElement
  | .toml, _ => .error .severalElements

def keyword {α : Type} [Keyword α] : Codec α where
  read format
    | .text name => readVariant name
    | .map entries => readKeyed format entries
    | document =>
        match format with
        | .json => mismatch .json document "string or map"
        | .toml => .error .notTextOrTable
  write := .keyword

def vectorTarget : Codec VectorTarget where
  read format document := do
    let name ← text.read format document
    (VectorTarget.parse name).mapError .badName
  write target := .text target.name

def pitfalls : Codec Pitfalls where
  read format document := do
    let written ←
      (textAs "a string value of \x60|\x60 separated flags").read format document
    (Pitfalls.ofText written).mapError .badFlags
  write set := .text set.text

def list {α : Type} (item : Codec α) : Codec (List α) where
  read format
    | .seq items | .sections items => items.mapM (item.read format)
    | document => mismatch format document "a sequence"
  write values := .seq (values.map item.write)

def nullable {α : Type} (value : Codec α) : Codec (Option α) where
  read format
    | .null => .ok none
    | document => (value.read format document).map some
  write := .nullable value.write

end Codec

end Lanewise
