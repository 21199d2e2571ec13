import Lanewise.Toml.Symbol

namespace Lanewise.Toml

def isHexDigit (c : Char) : Bool := Text.isDigitIn 16 c

def charOf? (n : Nat) : Option Char := if n.isValidChar then some (Char.ofNat n) else none

def hexChar (count : Nat) : Parser Char := do
  let digits ← Parser.exactly isHexDigit count
  (charOf? (Text.valueIn 16 digits) : Option Char)

def escapeLetters : List (Char × Char) :=
  [('b', '\x08'), ('t', '\t'), ('n', '\n'), ('f', '\x0c'), ('r', '\r'), ('"', '"'), ('\\', '\\')]

def escape : Parser (List Char) := do
  let _ ← Parser.char '\\'
  let letter ← Parser.satisfy fun _ => true
  let c ←
    match letter with
    | 'u' => hexChar 4
    | 'U' => hexChar 8
    | letter => (escapeLetters.lookup letter : Option Char)
  return [c]

def innerNewline : Parser (List Char) := do
  let c ← newline
  return [c]

def unescaped : Parser (List Char) :=
  Parser.takeWhile1 fun c => isPlain c && c ≠ '"' && c ≠ '\\'

def verbatim : Parser (List Char) := Parser.takeWhile1 fun c => isPlain c && c ≠ '\''

def singleLine (quote : Char) (item : Parser (List Char)) : Parser (List Char) := do
  let _ ← Parser.char quote
  let parts ← Parser.many item
  let _ ← Parser.char quote
  return parts.flatten

def lineText : Parser (List Char) :=
  singleLine '"' (escape <|> unescaped) <|> singleLine '\'' verbatim

def fence (quote : Char) : Parser Unit := do
  let _ ← Parser.exactly (· = quote) 3

/-- One or two quotes inside a text on several lines. A longer run of quotes ends the text, and its
last three are the end. -/
def innerQuotes (quote : Char) : Parser (List Char) := fun input =>
  match (input.takeWhile (· = quote)).length with
  | 1 | 4 => Parser.exactly (· = quote) 1 input
  | 2 | 5 => Parser.exactly (· = quote) 2 input
  | _ => none

def lineJoin : Parser (List Char) := do
  let _ ← Parser.char '\\'
  blanks
  let _ ← newline
  let _ ← Parser.many (newline <|> Parser.satisfy isBlank)
  return []

def multiLine (quote : Char) (item : Parser (List Char)) : Parser (List Char) := do
  fence quote
  let _ ← Parser.maybe newline
  let parts ← Parser.many (item <|> innerQuotes quote)
  fence quote
  return parts.flatten

def linesText : Parser (List Char) :=
  multiLine '"' (lineJoin <|> escape <|> unescaped <|> innerNewline)
    <|> multiLine '\'' (verbatim <|> innerNewline)

def quotedText : Parser (List Char) := fun input =>
  match input with
  | '"' :: '"' :: '"' :: _ | '\'' :: '\'' :: '\'' :: _ => linesText input
  | _ => lineText input

def isControl (c : Char) : Bool := !isPlain c && c ≠ '\n'

def longestRun (mark : Char) (text : List Char) : Nat :=
  (text.foldl
    (fun (longest, current) c =>
      if c = mark then (max longest (current + 1), current + 1) else (longest, 0)) (0, 0)).1

def escapeControl (c : Char) : List Char :=
  match escapeLetters.find? (·.2 = c) with
  | some (letter, _) => ['\\', letter]
  | none => ['\\', 'u'] ++ (Text.hexPadded 4 c.toNat).map Char.toUpper

def escapeInLine (c : Char) : List Char :=
  if isPlain c && c ≠ '\t' && c ≠ '"' && c ≠ '\\' then [c] else escapeControl c

/-- Characters on several lines between double quotes. Each third quote in a row is escaped; `run`
quotes stand before. -/
def escapeInLines (run : Nat) : List Char → List Char
  | [] => []
  | c :: rest =>
      if c = '"' then
        if run = 2 then '\\' :: '"' :: escapeInLines 0 rest
        else '"' :: escapeInLines (run + 1) rest
      else if c = '\n' then '\n' :: escapeInLines 0 rest
      else escapeInLine c ++ escapeInLines 0 rest

def onLines (fence text written : List Char) : List Char :=
  fence ++ (if text.contains '\n' then ['\n'] else []) ++ written ++ fence

def quote (text : List Char) : List Char :=
  let isLine := !text.contains '\n'
  let hasControl := text.any isControl
  let hasBackslash := text.contains '\\'
  let inLine := ['"'] ++ text.flatMap escapeInLine ++ ['"']
  let inLines := onLines ['"', '"', '"'] text (escapeInLines 0 text)
  if hasControl then if isLine then inLine else inLines
  else if isLine && !hasBackslash && !text.contains '"' then inLine
  else if isLine && !text.contains '\'' then ['\''] ++ text ++ ['\'']
  else if !hasBackslash && longestRun '"' text ≤ 2 then inLines
  else if longestRun '\'' text ≤ 2 then onLines ['\'', '\'', '\''] text text
  else if isLine then inLine
  else inLines

end Lanewise.Toml
