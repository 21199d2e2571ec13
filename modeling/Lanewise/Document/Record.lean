import Lanewise.Document.Codec

/-!
# Records

A record lists the fields of a structure: each with its key, how it is read into the structure, and
how it is written. A structure is given as a map, in which unknown keys do not count, or as a list
of its fields in order.
-/

namespace Lanewise

structure Field (σ : Type) where
  key : String
  store : DocumentFormat → Document → σ → Except Misfit σ
  entry : σ → Option Document
  isOptional : Bool := false

structure Record (σ : Type) where
  name : String
  fields : List (Field σ)
  base : σ
  isStrict : Bool := false

namespace Field

variable {σ α : Type}

def of (key : String) (codec : Codec α) (get : σ → α) (set : α → σ → σ) : Field σ where
  key
  store format document structure' :=
    (codec.read format document).map fun value => set value structure'
  entry structure' := some (codec.write (get structure'))

def nullable (key : String) (codec : Codec α) (get : σ → Option α) (set : Option α → σ → σ) :
    Field σ :=
  { of key codec.nullable get set with isOptional := true }

def omitted (key : String) (codec : Codec α) (get : σ → Option α) (set : Option α → σ → σ) :
    Field σ :=
  { nullable key codec get set with
    entry := fun structure' => (get structure').map codec.write }

end Field

namespace Record

variable {σ : Type}

def field? (record : Record σ) (key : String) : Option (Field σ) :=
  record.fields.find? (·.key == key)

def storeEntry (record : Record σ) (format : DocumentFormat) (structure' : σ)
    (entry : String × Document) : Except Misfit σ :=
  match record.field? entry.1 with
  | some field => field.store format entry.2 structure'
  | none => .ok structure'

def missing? (record : Record σ) (entries : List (String × Document)) : Option (Field σ) :=
  if record.isStrict then
    record.fields.find? fun field => !field.isOptional && !entries.any (·.1 == field.key)
  else none

def readMap (record : Record σ) (format : DocumentFormat) (entries : List (String × Document)) :
    Except Misfit σ := do
  let structure' ← entries.foldlM (record.storeEntry format) record.base
  match record.missing? entries with
  | some field => .error (.missingField field.key)
  | none => return structure'

def readItems (record : Record σ) (format : DocumentFormat) (total : Nat) :
    List (Field σ) → List Document → σ → Except Misfit σ
  | [], [], structure' => .ok structure'
  | [], _ :: _, structure' =>
      match format with
      | .json => .error (.invalidLength total "fewer elements in array")
      | .toml => .ok structure'
  | _ :: _, [], structure' =>
      if record.isStrict then
        .error (.invalidLength total
          ("struct " ++ record.name ++ " with " ++ toString record.fields.length ++ " elements"))
      else .ok structure'
  | field :: fields, document :: documents, structure' => do
      let structure' ← field.store format document structure'
      record.readItems format total fields documents structure'

def read (record : Record σ) (format : DocumentFormat) : Document → Except Misfit σ
  | .map entries => record.readMap format entries
  | .moment => record.readMap format []
  | .seq items | .sections items =>
      record.readItems format items.length record.fields items record.base
  | document => Codec.mismatch format document ("struct " ++ record.name)

def entries (record : Record σ) (structure' : σ) : List (String × Document) :=
  record.fields.filterMap fun field => (field.entry structure').map (field.key, ·)

def codec (record : Record σ) : Codec σ where
  read := record.read
  write structure' := .map (record.entries structure')

end Record

end Lanewise
