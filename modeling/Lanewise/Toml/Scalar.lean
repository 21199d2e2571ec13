import Lanewise.Document.Basic
import Lanewise.Toml.Symbol

namespace Lanewise.Toml

def digits (base : Nat) : Parser (List Char) := do
  let groups ← Parser.separated (Parser.char '_') (Parser.takeWhile1 (Text.isDigitIn base))
  return groups.flatten

def wholeDigits : Parser (List Char) := fun input =>
  match input with
  | '0' :: rest => some (['0'], rest)
  | _ => digits 10 input

def sign : Parser Bool := do
  let mark ← Parser.maybe (Parser.satisfy fun c => c = '+' || c = '-')
  return mark = some '-'

def int64? (value : Int) : Option Int :=
  if -0x8000000000000000 ≤ value ∧ value < 0x8000000000000000 then some value else none

def baseInteger (mark : String) (base : Nat) : Parser Int := do
  Parser.word mark
  let digits ← digits base
  (int64? (Text.valueIn base digits) : Option Int)

def decimalInteger : Parser Int := do
  let isNegative ← sign
  let digits ← wholeDigits
  let magnitude : Int := Text.valueIn 10 digits
  (int64? (if isNegative then -magnitude else magnitude) : Option Int)

def integer : Parser Int :=
  baseInteger "0x" 16 <|> baseInteger "0o" 8 <|> baseInteger "0b" 2 <|> decimalInteger

def fraction : Parser (List Char) := do
  let _ ← Parser.char '.'
  digits 10

def power : Parser Int := do
  let _ ← Parser.satisfy fun c => c = 'e' || c = 'E'
  let isNegative ← sign
  let digits ← digits 10
  let magnitude : Int := Text.valueIn 10 digits
  return if isNegative then -magnitude else magnitude

def signedBits (isNegative : Bool) (bits : Nat) : Nat :=
  if isNegative then Binary64.signBit + bits else bits

def decimalFloat : Parser Nat := do
  let isNegative ← sign
  let whole ← wholeDigits
  let places ← Parser.maybe fraction
  let exponent ← Parser.maybe power
  if places.isNone && exponent.isNone then failure
  let places := places.getD []
  let bits :=
    Binary64.ofDecimal (Text.valueIn 10 (whole ++ places))
      (exponent.getD 0 - (places.length : Int))
  if !isNegative && bits = Binary64.infinityBits then failure
  return signedBits isNegative bits

def specialFloat : Parser Nat := do
  let isNegative ← sign
  (do Parser.word "inf"; return signedBits isNegative Binary64.infinityBits)
    <|> (do Parser.word "nan"; return signedBits isNegative Binary64.nanBits)

def field (width low high : Nat) : Parser Nat := do
  let digits ← Parser.exactly (Text.isDigitIn 10) width
  let value := Text.valueIn 10 digits
  if value < low ∨ high < value then failure
  return value

def isLeapYear (year : Nat) : Bool := year % 4 = 0 && (year % 100 ≠ 0 || year % 400 = 0)

def daysOfMonth (year month : Nat) : Nat :=
  if month = 2 then if isLeapYear year then 29 else 28
  else if month = 4 ∨ month = 6 ∨ month = 9 ∨ month = 11 then 30
  else 31

def date : Parser Unit := do
  let year ← field 4 0 9999
  let _ ← Parser.char '-'
  let month ← field 2 1 12
  let _ ← Parser.char '-'
  let _ ← field 2 1 (daysOfMonth year month)

def hourMinute : Parser Unit := do
  let _ ← field 2 0 23
  let _ ← Parser.char ':'
  let _ ← field 2 0 59

/-- A time of day. The last second of a day may be one more. -/
def time : Parser Unit := do
  hourMinute
  let _ ← Parser.char ':'
  let _ ← field 2 0 60
  let _ ← Parser.maybe do
    let _ ← Parser.char '.'
    Parser.takeWhile1 (Text.isDigitIn 10)

def offset : Parser Unit :=
  (do let _ ← Parser.satisfy fun c => c = 'Z' || c = 'z')
    <|> (do let _ ← Parser.satisfy fun c => c = '+' || c = '-'; hourMinute)

def moment : Parser Unit :=
  (do
    date
    let _ ← Parser.maybe do
      let _ ← Parser.satisfy fun c => c = 'T' || c = 't' || c = ' '
      time
      let _ ← Parser.maybe offset)
  <|> time

def scalar : Parser Document :=
  (do moment; return .moment)
    <|> (.float <$> decimalFloat)
    <|> (.int <$> integer)
    <|> (.float <$> specialFloat)
    <|> (do Parser.word "true"; return .bool true)
    <|> (do Parser.word "false"; return .bool false)

end Lanewise.Toml
