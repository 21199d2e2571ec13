namespace Lanewise.Binary64

def roundHalfEven (num den : Nat) : Nat :=
  let quotient := num / den
  let rest := num % den
  if 2 * rest < den then quotient
  else if den < 2 * rest then quotient + 1
  else quotient + quotient % 2

def hiddenBit : Nat := 0x10000000000000

def infinityBits : Nat := 0x7FF * hiddenBit

def signBit : Nat := 0x800 * hiddenBit

def nanBits : Nat := infinityBits + hiddenBit / 2

def twoPower (exponent : Int) : Nat × Nat := (Nat.pow 2 exponent.toNat, Nat.pow 2 (-exponent).toNat)

def lastPlace (num den : Nat) : Int :=
  let estimate := (num.log2 : Int) - (den.log2 : Int) - 52
  let (up, down) := twoPower estimate
  let exponent := if num * down < hiddenBit * (den * up) then estimate - 1 else estimate
  max exponent (-1074)

def ofRatio (num den : Nat) : Nat :=
  if num = 0 then 0
  else
    let exponent := lastPlace num den
    let (up, down) := twoPower exponent
    min infinityBits
      ((exponent + 1074).toNat * hiddenBit + roundHalfEven (num * down) (den * up))

def ofDecimal (mantissa : Nat) (exponent : Int) : Nat :=
  let magnitude := Int.ofNat (Nat.toDigits 10 mantissa).length + exponent
  if mantissa = 0 ∨ magnitude < -330 then 0
  else if 320 < magnitude then infinityBits
  else ofRatio (mantissa * Nat.pow 10 exponent.toNat) (Nat.pow 10 (-exponent).toNat)

def split (bits : Nat) : Nat × Int :=
  let field : Nat := bits / hiddenBit
  if field = 0 then (bits, -1074) else (bits % hiddenBit + hiddenBit, (field : Int) - 1075)

def mul (first second : Nat) : Nat :=
  let (m, e) := split first
  let (n, f) := split second
  let (up, down) := twoPower (e + f)
  ofRatio (m * n * up) down

def div (first second : Nat) : Nat :=
  let (m, e) := split first
  let (n, f) := split second
  let (up, down) := twoPower (e - f)
  ofRatio (m * up) (n * down)

/-- A natural number times a power of ten, where the number, the power and each product are rounded
on their own. Where no power is large enough, the number is divided in two steps. -/
def scaled (n : Nat) (exponent : Int) : Nat :=
  let number := ofRatio n 1
  let power (k : Int) := ofDecimal 1 k
  if n = 0 ∨ exponent < -616 then 0
  else if 308 < exponent then infinityBits
  else if 0 ≤ exponent then mul number (power exponent)
  else if -308 ≤ exponent then div number (power (-exponent))
  else div (div number (power 308)) (power (-308 - exponent))

structure Decimal where
  digits : List Char
  point : Int
  deriving DecidableEq, Repr

def floorLog10 (num den : Nat) : Int :=
  if den ≤ num then Int.ofNat (Nat.toDigits 10 (num / den)).length - 1
  else -Int.ofNat (Nat.toDigits 10 ((den + num - 1) / num - 1)).length

/-- Which of two equally near decimals is taken: the one whose last digit is even, or the larger. -/
inductive Tie where
  | even
  | up
  deriving DecidableEq, Repr

def Tie.keeps : Tie → Nat → Bool
  | even, below => below % 2 = 0
  | up, _ => false

def gridPoint? (tie : Tie) (bits count : Nat) : Option Decimal :=
  let (mantissa, exponent) := split bits
  let (up, down) := twoPower (exponent - 2)
  let place := floorLog10 (4 * mantissa * up) down + 1 - count
  let (grid, scale) := (Nat.pow 10 place.toNat * down, Nat.pow 10 (-place).toNat)
  let unit := up * scale
  let value := 4 * mantissa * unit
  let gapBelow := if mantissa = hiddenBit ∧ -1074 < exponent then 1 else 2
  let (low, high) := (value - gapBelow * unit, value + 2 * unit)
  let inside (point : Nat) : Bool :=
    if mantissa % 2 = 0 then low ≤ point * grid && point * grid ≤ high
    else low < point * grid && point * grid < high
  let below := value / grid
  let point? :=
    if inside below && inside (below + 1) then
      let (left, right) := (value - below * grid, (below + 1) * grid - value)
      some (if left < right ∨ (left = right ∧ tie.keeps below) then below else below + 1)
    else if inside below then some below
    else if inside (below + 1) then some (below + 1)
    else none
  point?.map fun point =>
    let digits := Nat.toDigits 10 point
    { digits := (digits.reverse.dropWhile (· = '0')).reverse
      point := place + digits.length }

def shortest (tie : Tie) (bits : Nat) : Decimal :=
  ((List.range 17).findSome? fun count => gridPoint? tie bits (count + 1)).getD ⟨[], 0⟩

structure FloatStyle where
  isPositional : Int → Bool
  tie : Tie

def positional (decimal : Decimal) : List Char :=
  let count : Int := decimal.digits.length
  if decimal.point ≤ 0 then
    ['0', '.'] ++ List.replicate (-decimal.point).toNat '0' ++ decimal.digits
  else if count ≤ decimal.point then
    decimal.digits ++ List.replicate (decimal.point - count).toNat '0' ++ ['.', '0']
  else
    decimal.digits.take decimal.point.toNat ++ ['.'] ++ decimal.digits.drop decimal.point.toNat

def signed (exponent : Int) : List Char :=
  (if exponent < 0 then '-' else '+') :: Nat.toDigits 10 exponent.natAbs

def scientific (decimal : Decimal) : List Char :=
  let mantissa :=
    match decimal.digits with
    | first :: second :: rest => first :: '.' :: second :: rest
    | digits => digits
  mantissa ++ ['e'] ++ signed (decimal.point - 1)

def FloatStyle.text (style : FloatStyle) (bits : Nat) : String :=
  let magnitude := bits % signBit
  if infinityBits < magnitude then "NaN"
  else
    let sign := if signBit ≤ bits then "-" else ""
    if magnitude = infinityBits then sign ++ "inf"
    else if magnitude = 0 then sign ++ "0.0"
    else
      let decimal := shortest style.tie magnitude
      sign ++ String.ofList
        (if style.isPositional decimal.point then positional decimal else scientific decimal)

def plainStyle : FloatStyle := ⟨fun _ => true, .up⟩

def shortStyle : FloatStyle := ⟨fun point => -5 < point && point ≤ 16, .even⟩

end Lanewise.Binary64
