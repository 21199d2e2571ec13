import Lanewise.Text.Basic

namespace Lanewise

abbrev Parser := StateT (List Char) Option

namespace Parser

variable {α : Type}

def satisfy (condition : Char → Bool) : Parser Char := fun
  | c :: rest => if condition c then some (c, rest) else none
  | [] => none

def char (c : Char) : Parser Char := satisfy (· = c)

def word (text : String) : Parser Unit := fun input =>
  (text.toList.isPrefixOf? input).map fun rest => ((), rest)

def takeWhile (condition : Char → Bool) : Parser (List Char) := fun input =>
  some (input.span condition)

def takeWhile1 (condition : Char → Bool) : Parser (List Char) := do
  let first ← satisfy condition
  let rest ← takeWhile condition
  return first :: rest

def maybe (item : Parser α) : Parser (Option α) := some <$> item <|> pure none

def atEnd : Parser Unit := fun
  | [] => some ((), [])
  | _ :: _ => none

/-- A parser repeated until it fails or makes no progress: the values, and the rest. -/
def repeated (item : Parser α) (input : List Char) : List α × List Char :=
  match item input with
  | none => ([], input)
  | some (value, rest) =>
      if rest.length < input.length then
        let (values, rest) := repeated item rest
        (value :: values, rest)
      else ([], input)
termination_by input.length

def many (item : Parser α) : Parser (List α) := fun input => some (repeated item input)

def exactly (condition : Char → Bool) : Nat → Parser (List Char)
  | 0 => pure []
  | count + 1 => do
      let first ← satisfy condition
      let rest ← exactly condition count
      return first :: rest

def separated {β : Type} (mark : Parser β) (item : Parser α) : Parser (List α) := do
  let first ← item
  let rest ← many (do let _ ← mark; item)
  return first :: rest

def parseAll (item : Parser α) (text : String) : Option α :=
  (StateT.run (do let value ← item; atEnd; return value) text.toList).map (·.1)

end Parser

end Lanewise
