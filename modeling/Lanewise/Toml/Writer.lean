import Lanewise.Document.Basic
import Lanewise.Toml.Quoted

namespace Lanewise.Toml

def arrayText : List String → String
  | [] => "[]"
  | [item] => "[" ++ item ++ "]"
  | items => "[\n" ++ String.join (items.map fun item => "    " ++ item ++ ",\n") ++ "]"

def braced : List String → String
  | [] => "\x7b\x7d"
  | items => "\x7b " ++ String.intercalate ", " items ++ " \x7d"

mutual

def valueText : Document → String
  | .null | .moment => ""
  | .bool value => if value then "true" else "false"
  | .int value => toString value
  | .float bits => Binary64.plainStyle.text bits
  | .text value => String.ofList (quote value.toList)
  | .seq items | .sections items => arrayText (itemTexts items)
  | .map entries => braced (entryTexts entries)

def itemTexts : List Document → List String
  | [] => []
  | item :: rest => valueText item :: itemTexts rest

def entryTexts : List (String × Document) → List String
  | [] => []
  | (key, value) :: rest => (key ++ " = " ++ valueText value) :: entryTexts rest

end

def isMap : Document → Bool
  | .map _ => true
  | _ => false

def hasHeader : Document → Bool
  | .map _ => true
  | .seq items | .sections items => !items.isEmpty && items.all isMap
  | _ => false

def plainLines (entries : List (String × Document)) : String :=
  String.join ((entries.filter fun entry => !hasHeader entry.2).map fun entry =>
    entry.1 ++ " = " ++ valueText entry.2 ++ "\n")

def below (path key : String) : String := if path = "" then key else path ++ "." ++ key

mutual

def tableBlocks (path : String) : List (String × Document) → List String
  | [] => []
  | (key, .map inner) :: rest =>
      ("[" ++ below path key ++ "]\n" ++ plainLines inner) :: tableBlocks (below path key) inner
        ++ tableBlocks path rest
  | (key, .seq items) :: rest | (key, .sections items) :: rest =>
      (if hasHeader (.seq items) then elementBlocks (below path key) items else [])
        ++ tableBlocks path rest
  | _ :: rest => tableBlocks path rest

def elementBlocks (path : String) : List Document → List String
  | [] => []
  | .map inner :: rest =>
      ("[[" ++ path ++ "]]\n" ++ plainLines inner) :: tableBlocks path inner
        ++ elementBlocks path rest
  | _ :: rest => elementBlocks path rest

end

def write (entries : List (String × Document)) : String :=
  let first := plainLines entries
  String.intercalate "\n" ((if first = "" then [] else [first]) ++ tableBlocks "" entries)

end Lanewise.Toml
