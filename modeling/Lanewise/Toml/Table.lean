import Lanewise.Document.Basic

/-!
# Tables of a configuration text

A text defines tables in two ways: under a header, and by keys with dots in them. Either way a table
may be defined only once, and one that merely lies on the way to another may still be defined later.
-/

namespace Lanewise.Toml

inductive Origin where
  /-- Its header was written, or it is the whole text. -/
  | header
  /-- It lies on the way to the table of a header. -/
  | passed
  /-- It is named by a key with dots. -/
  | dotted
  deriving DecidableEq, Repr

inductive Node where
  | value (document : Document)
  | table (origin : Origin) (entries : List (String × Node))
  | tables (elements : List (List (String × Node)))

abbrev Entries := List (String × Node)

structure KeyPath where
  parents : List String
  key : String
  deriving DecidableEq, Repr

def KeyPath.ofList? (keys : List String) : Option KeyPath :=
  keys.getLast?.map fun key => ⟨keys.dropLast, key⟩

structure Assignment where
  path : KeyPath
  value : Document

structure Section where
  path : KeyPath
  isElement : Bool
  assignments : List Assignment

def Entries.get? (key : String) (entries : Entries) : Option Node :=
  (entries.find? (·.1 == key)).map (·.2)

def Entries.erase (key : String) (entries : Entries) : Entries :=
  entries.filter (·.1 != key)

def Entries.replace (key : String) (node : Node) (entries : Entries) : Entries :=
  entries.map fun entry => if entry.1 == key then (key, node) else entry

/-- A table changed at the end of a path, the tables on the way being made where they are missing.
Of a list of tables the last one counts. A key with dots cannot enter a table that has a header. -/
def descend (origin : Origin) (change : Origin → Entries → Option Entries) :
    List String → Origin → Entries → Option Entries
  | [], own, entries => change own entries
  | key :: path, _, entries =>
      match entries.get? key with
      | none => do
          let inner ← descend origin change path origin []
          return entries ++ [(key, .table origin inner)]
      | some (.value _) => none
      | some (.tables elements) => do
          let last ← elements.getLast?
          let inner ← descend origin change path .header last
          return entries.replace key (.tables (elements.dropLast ++ [inner]))
      | some (.table own inner) =>
          if origin = .dotted ∧ own = .header then none
          else do
            let inner ← descend origin change path own inner
            return entries.replace key (.table own inner)

/-- A table with a value under a new key. A key without dots belongs to the table of its header, and
one with dots to a table that dots made. -/
def putValue (key : String) (value : Document) (hasDots : Bool) (own : Origin)
    (entries : Entries) : Option Entries :=
  if hasDots = (own = .dotted) ∧ (entries.get? key).isNone then
    some (entries ++ [(key, .value value)])
  else none

def assign (entries : Entries) (assignment : Assignment) : Option Entries :=
  let path := assignment.path
  descend .dotted (putValue path.key assignment.value (!path.parents.isEmpty)) path.parents .header
    entries

def putTable (path : KeyPath) (assignments : List Assignment) (entries : Entries) :
    Option Entries :=
  match entries.get? path.key with
  | none => do
      let inner ← assignments.foldlM assign []
      return entries ++ [(path.key, .table .header inner)]
  | some (.table .passed inner) => do
      let inner ← assignments.foldlM assign inner
      return entries.erase path.key ++ [(path.key, .table .header inner)]
  | some _ => none

def putElement (path : KeyPath) (assignments : List Assignment) (entries : Entries) :
    Option Entries :=
  match entries.get? path.key with
  | none => do
      let inner ← assignments.foldlM assign []
      return entries ++ [(path.key, .tables [inner])]
  | some (.tables elements) => do
      let inner ← assignments.foldlM assign []
      return entries.replace path.key (.tables (elements ++ [inner]))
  | some _ => none

def addSection (entries : Entries) (part : Section) : Option Entries :=
  let put := if part.isElement then putElement else putTable
  descend .passed (fun _ entries => put part.path part.assignments entries) part.path.parents
    .header entries

def tabulate (assignments : List Assignment) (parts : List Section) : Option Entries := do
  let entries ← assignments.foldlM assign []
  parts.foldlM addSection entries

mutual

def Node.document : Node → Document
  | .value document => document
  | .table _ entries => .map (entryDocuments entries)
  | .tables elements => .sections (elementDocuments elements)

def entryDocuments : List (String × Node) → List (String × Document)
  | [] => []
  | (key, node) :: rest => (key, node.document) :: entryDocuments rest

def elementDocuments : List (List (String × Node)) → List Document
  | [] => []
  | entries :: rest => .map (entryDocuments entries) :: elementDocuments rest

end

end Lanewise.Toml
