import Lanewise.Text.Parser

namespace Lanewise.Toml

def isBlank (c : Char) : Bool := c = ' ' || c = '\t'

def isPlain (c : Char) : Bool := c = '\t' || (' ' ≤ c && c ≠ '\x7f')

def isBare (c : Char) : Bool := c.isAlphanum || c = '_' || c = '-'

def blanks : Parser Unit := do
  let _ ← Parser.takeWhile isBlank

def newline : Parser Char :=
  Parser.char '\n' <|> (do let _ ← Parser.char '\r'; Parser.char '\n')

def lineEnd : Parser Unit := (do let _ ← newline) <|> Parser.atEnd

def comment : Parser Unit := do
  let _ ← Parser.char '#'
  let _ ← Parser.takeWhile isPlain

def lineRest : Parser Unit := do
  blanks
  let _ ← Parser.maybe comment
  lineEnd

def gapItem : Parser Unit :=
  (do let _ ← Parser.takeWhile1 isBlank) <|> (do let _ ← newline)
    <|> (do comment; let _ ← newline)

def gap : Parser Unit := do
  let _ ← Parser.many gapItem

end Lanewise.Toml
