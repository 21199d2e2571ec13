import Lanewise.Toml.Quoted
import Lanewise.Toml.Scalar
import Lanewise.Toml.Table

namespace Lanewise.Toml

def maxDepth : Nat := 79

def maxKeys : Nat := 79

def key : Parser String :=
  String.ofList <$> (Parser.takeWhile1 isBare <|> lineText)

def keyPath : Parser KeyPath := do
  let keys ← Parser.separated (Parser.char '.') (do blanks; let key ← key; blanks; return key)
  if maxKeys < keys.length then failure
  (KeyPath.ofList? keys : Option KeyPath)

def assignment (value : Parser Document) : Parser Assignment := do
  let path ← keyPath
  let _ ← Parser.char '='
  blanks
  let value ← value
  return { path, value }

def array (item : Parser Document) : Parser Document := do
  let _ ← Parser.char '['
  gap
  let items ← Parser.maybe (Parser.separated (do gap; let _ ← Parser.char ','; gap) item)
  gap
  if items.isSome then
    let _ ← Parser.maybe (Parser.char ',')
    gap
  let _ ← Parser.char ']'
  return .seq (items.getD [])

def inlineTable (value : Parser Document) : Parser Document := do
  let _ ← Parser.char '\x7b'
  blanks
  let items ← Parser.maybe
    (Parser.separated (Parser.char ',') (do let item ← assignment value; blanks; return item))
  let _ ← Parser.char '\x7d'
  let entries ← ((items.getD []).foldlM assign [] : Option Entries)
  return .map (entryDocuments entries)

def plainValue : Parser Document :=
  (do let text ← quotedText; return .text (String.ofList text)) <|> scalar

def value : Nat → Parser Document
  | 0 => plainValue
  | depth + 1 => fun input =>
      match input with
      | '[' :: _ => array (value depth) input
      | '\x7b' :: _ => inlineTable (value depth) input
      | _ => plainValue input

def blankLine : Parser (Option Assignment) :=
  (do let _ ← newline; blanks; return none)
    <|> (do comment; lineEnd; blanks; return none)

def assignmentLine : Parser (Option Assignment) := do
  let item ← assignment (value maxDepth)
  lineRest
  blanks
  return some item

def assignments : Parser (List Assignment) := do
  let lines ← Parser.many (blankLine <|> assignmentLine)
  return lines.reduceOption

def header : Parser (KeyPath × Bool) := do
  let _ ← Parser.char '['
  let second ← Parser.maybe (Parser.char '[')
  let path ← keyPath
  let _ ← Parser.char ']'
  if second.isSome then
    let _ ← Parser.char ']'
  return (path, second.isSome)

def tableSection : Parser Section := do
  let (path, isElement) ← header
  lineRest
  blanks
  let assignments ← assignments
  return { path, isElement, assignments }

def wholeText : Parser (List Assignment × List Section) := do
  let _ ← Parser.maybe (Parser.char '\ufeff')
  blanks
  let first ← assignments
  let rest ← Parser.many tableSection
  return (first, rest)

def read? (text : String) : Option (List (String × Document)) := do
  let (first, rest) ← Parser.parseAll wholeText text
  let entries ← tabulate first rest
  return entryDocuments entries

end Lanewise.Toml
