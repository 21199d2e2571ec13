import Lanewise.Document.Basic
import Lanewise.Text.Basic

namespace Lanewise

namespace Json

def escapeLetters : List (Char × Char) :=
  [('"', '"'), ('\\', '\\'), ('\x08', 'b'), ('\x0c', 'f'), ('\n', 'n'), ('\r', 'r'), ('\t', 't')]

def escape (c : Char) : List Char :=
  match escapeLetters.lookup c with
  | some letter => ['\\', letter]
  | none => if c < ' ' then ['\\', 'u'] ++ Text.hexPadded 4 c.toNat else [c]

def quote (text : String) : String :=
  "\"" ++ String.ofList (text.toList.flatMap escape) ++ "\""

def enclose (opening closing indent : String) (items : List String) : String :=
  if items.isEmpty then opening ++ closing
  else
    opening ++ "\n" ++ String.intercalate ",\n" (items.map fun item => indent ++ "  " ++ item)
      ++ "\n" ++ indent ++ closing

mutual

def textOf (indent : String) : Document → String
  | .null | .moment => "null"
  | .bool value => if value then "true" else "false"
  | .int value => toString value
  | .float bits => Binary64.shortStyle.text bits
  | .text value => quote value
  | .seq items | .sections items => enclose "[" "]" indent (itemTexts (indent ++ "  ") items)
  | .map entries => enclose "\x7b" "\x7d" indent (entryTexts (indent ++ "  ") entries)

def itemTexts (indent : String) : List Document → List String
  | [] => []
  | item :: rest => textOf indent item :: itemTexts indent rest

def entryTexts (indent : String) : List (String × Document) → List String
  | [] => []
  | (key, value) :: rest =>
      (quote key ++ ": " ++ textOf indent value) :: entryTexts indent rest

end

end Json

def Document.json (document : Document) : String := Json.textOf "" document

end Lanewise
