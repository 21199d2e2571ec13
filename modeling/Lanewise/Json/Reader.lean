import Lanewise.Document.Basic
import Lanewise.Text.Parser

namespace Lanewise.Json

def maxDepth : Nat := 127

def space : Parser Unit := do
  let _ ← Parser.takeWhile fun c => c = ' ' || c = '\t' || c = '\n' || c = '\r'

def mark (c : Char) : Parser Unit := do
  let _ ← Parser.char c
  space

def unescapeLetters : List (Char × Char) :=
  [('"', '"'), ('\\', '\\'), ('/', '/'), ('b', '\x08'), ('f', '\x0c'), ('n', '\n'), ('r', '\r'),
    ('t', '\t')]

def hexFour : Parser Nat := Text.valueIn 16 <$> Parser.exactly (Text.isDigitIn 16) 4

def numbered : Parser Char := do
  let high ← hexFour
  if 0xD800 ≤ high ∧ high < 0xDC00 then
    Parser.word "\\u"
    let low ← hexFour
    if low < 0xDC00 ∨ 0xE000 ≤ low then failure
    return Char.ofNat (0x10000 + (high - 0xD800) * 0x400 + (low - 0xDC00))
  else if high.isValidChar then return Char.ofNat high
  else failure

def unescape : Parser (List Char) := do
  let _ ← Parser.char '\\'
  let letter ← Parser.satisfy fun _ => true
  let c ← if letter = 'u' then numbered else (unescapeLetters.lookup letter : Option Char)
  return [c]

def plain : Parser (List Char) := Parser.takeWhile1 fun c => ' ' ≤ c && c ≠ '"' && c ≠ '\\'

def text : Parser String := do
  let _ ← Parser.char '"'
  let parts ← Parser.many (unescape <|> plain)
  mark '"'
  return String.ofList parts.flatten

def wholeDigits : Parser (List Char) := fun input =>
  match input with
  | '0' :: rest => some (['0'], rest)
  | _ => Parser.takeWhile1 Char.isDigit input

def fraction : Parser (List Char) := do
  let _ ← Parser.char '.'
  Parser.takeWhile1 Char.isDigit

def power : Parser Int := do
  let _ ← Parser.satisfy fun c => c = 'e' || c = 'E'
  let sign ← Parser.maybe (Parser.satisfy fun c => c = '+' || c = '-')
  let digits ← Parser.takeWhile1 Char.isDigit
  let magnitude : Int := Text.valueIn 10 digits
  return if sign = some '-' then -magnitude else magnitude

def integer? (isNegative : Bool) (magnitude : Nat) : Option Int :=
  if isNegative then
    if 0 < magnitude ∧ magnitude ≤ 0x8000000000000000 then some (-magnitude) else none
  else if magnitude < UInt64.size then some magnitude
  else none

def absorb (total : Nat) : List Char → Nat × Nat
  | [] => (total, 0)
  | digit :: rest =>
      let next := total * 10 + Text.digitValue digit
      if next < UInt64.size then
        let (total, count) := absorb next rest
        (total, count + 1)
      else (total, 0)

/-- The bits of a number with the given digits before and after its point, times a power of ten. Of
its digits those count that fit into 64 bits. -/
def floatBits (whole places : List Char) (exponent : Int) : Nat :=
  let (total, wholeCount) := absorb 0 whole
  let (total, placeCount) := absorb total places
  Binary64.scaled total (exponent + (whole.length - wholeCount : Nat) - (placeCount : Int))

def number : Parser Document := do
  let sign ← Parser.maybe (Parser.char '-')
  let whole ← wholeDigits
  let places ← Parser.maybe fraction
  let exponent ← Parser.maybe power
  space
  let integer := if places.isNone && exponent.isNone then
    integer? sign.isSome (Text.valueIn 10 whole) else none
  match integer with
  | some value => return .int value
  | none => do
      let bits := floatBits whole (places.getD []) (exponent.getD 0)
      if bits = Binary64.infinityBits then failure
      return .float (if sign.isSome then Binary64.signBit + bits else bits)

/-- The entries in the order of their keys, without those that a later one replaces. -/
def sortEntries (entries : List (String × Document)) : List (String × Document) :=
  let kept := entries.foldr
    (fun entry rest => if rest.any (·.1 == entry.1) then rest else entry :: rest) []
  kept.mergeSort fun first second => first.1 ≤ second.1

def enclosed {α : Type} (opening closing : Char) (item : Parser α) : Parser (List α) := do
  mark opening
  let items ← Parser.maybe (Parser.separated (mark ',') item)
  mark closing
  return items.getD []

def entry (value : Parser Document) : Parser (String × Document) := do
  let key ← text
  mark ':'
  let value ← value
  return (key, value)

def named (word : String) (value : Document) : Parser Document := do
  Parser.word word
  space
  return value

def plainValue : Parser Document :=
  (.text <$> text) <|> number <|> named "true" (.bool true) <|> named "false" (.bool false)
    <|> named "null" .null

def value : Nat → Parser Document
  | 0 => plainValue
  | depth + 1 => fun input =>
      match input with
      | '[' :: _ => (.seq <$> enclosed '[' ']' (value depth)) input
      | '\x7b' :: _ =>
          ((fun entries => .map (sortEntries entries))
            <$> enclosed '\x7b' '\x7d' (entry (value depth))) input
      | _ => plainValue input

def read? (text : String) : Option Document :=
  Parser.parseAll (do space; value maxDepth) text

end Lanewise.Json
