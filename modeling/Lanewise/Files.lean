import Lanewise.Text.Basic

namespace Lanewise

inductive FileFault where
  | missing
  | notADirectory
  | isADirectory
  | nameTooLong
  | badName
  | notText
  | other (code : Nat) (wording : String)
  deriving DecidableEq, Repr

def numbered (wording : String) (code : Nat) : String :=
  wording ++ " (os error " ++ toString code ++ ")"

def FileFault.message : FileFault → String
  | missing => numbered "No such file or directory" 2
  | notADirectory => numbered "Not a directory" 20
  | isADirectory => numbered "Is a directory" 21
  | nameTooLong => numbered "File name too long" 36
  | badName => "file name contained an unexpected NUL byte"
  | notText => "stream did not contain valid UTF-8"
  | other code wording => numbered wording code

def textOfBytes (bytes : ByteArray) : Except FileFault String :=
  match String.fromUTF8? bytes with
  | some text => .ok text
  | none => .error .notText

structure Files where
  entries : List (List String × ByteArray)

namespace Files

def maxNameSize : Nat := 255

def maxPathSize : Nat := 4095

def empty : Files := ⟨[]⟩

def names (path : String) : List String := Text.splitAt '/' path

def ofList (files : List (String × ByteArray)) : Files :=
  ⟨files.map fun file => (names file.1, file.2)⟩

def get? (files : Files) (place : List String) : Option ByteArray :=
  (files.entries.find? (·.1 == place)).map (·.2)

def reaches (files : Files) (place : List String) : Bool :=
  files.entries.any fun file => place.isPrefixOf file.1

/-- The place to which names lead from another place. From the directory itself `..` leads to one of
which no file is known. -/
def follow (files : Files) : List String → List String → Except FileFault (List String)
  | place, [] => .ok place
  | place, name :: rest =>
      if (files.get? place).isSome then .error .notADirectory
      else if name = "" ∨ name = "." then files.follow place rest
      else if name = ".." then
        if place.isEmpty then empty.follow [] rest else files.follow place.dropLast rest
      else if maxNameSize < name.utf8ByteSize then .error .nameTooLong
      else if files.reaches (place ++ [name]) then files.follow (place ++ [name]) rest
      else .error .missing

def read (files : Files) (path : String) : Except FileFault String := do
  if path = "" then throw .missing
  if path.toList.contains '\x00' then throw .badName
  if maxPathSize < path.utf8ByteSize then throw .nameTooLong
  let files := if Text.startsWith path "/" then empty else files
  let place ← files.follow [] (names path)
  match files.get? place with
  | some bytes => textOfBytes bytes
  | none => throw .isADirectory

end Files

end Lanewise
