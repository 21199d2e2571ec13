namespace Lanewise.Text

def lower (text : String) : String :=
  String.ofList (text.toList.map Char.toLower)

def sameLetters (first second : String) : Bool :=
  lower first == lower second

def startsWith (text stem : String) : Bool :=
  stem.toList.isPrefixOf text.toList

def afterStem? (stem text : String) : Option String :=
  (stem.toList.isPrefixOf? text.toList).map String.ofList

def replaceChar (old : Char) (new : List Char) (text : String) : String :=
  String.ofList (text.toList.flatMap fun c => if c = old then new else [c])

def splitAt (mark : Char) (text : String) : List String :=
  (text.toList.splitOn mark).map String.ofList

def digitValue (c : Char) : Nat :=
  if '0' ≤ c ∧ c ≤ '9' then c.toNat - '0'.toNat
  else if 'a' ≤ c ∧ c ≤ 'z' then c.toNat - 'a'.toNat + 10
  else if 'A' ≤ c ∧ c ≤ 'Z' then c.toNat - 'A'.toNat + 10
  else 36

def isDigitIn (base : Nat) (c : Char) : Bool :=
  digitValue c < base

def valueIn (base : Nat) (digits : List Char) : Nat :=
  digits.foldl (fun total c => total * base + digitValue c) 0

def readNat? (base : Nat) (text : List Char) : Option Nat :=
  if !text.isEmpty && text.all (isDigitIn base) then some (valueIn base text) else none

def dropPlus : List Char → List Char
  | '+' :: rest => rest
  | text => text

def word? (n : Nat) : Option UInt32 :=
  if n < UInt32.size then some (UInt32.ofNat n) else none

def readWordIn? (base : Nat) (text : List Char) : Option UInt32 :=
  (readNat? base (dropPlus text)).bind word?

def readWord? (text : List Char) : Option UInt32 :=
  readWordIn? 10 text

def hex (n : Nat) : String :=
  String.ofList (Nat.toDigits 16 n)

def hexPadded (width n : Nat) : List Char :=
  let digits := Nat.toDigits 16 n
  List.replicate (width - digits.length) '0' ++ digits

def padRight (width : Nat) (text : String) : String :=
  String.ofList (text.toList ++ List.replicate (width - text.toList.length) ' ')

def padLeft (width : Nat) (text : String) : String :=
  String.ofList (List.replicate (width - text.toList.length) ' ' ++ text.toList)

def unlines (lines : List String) : String :=
  String.join (lines.map (· ++ "\n"))

def commaList (names : List String) : String :=
  String.intercalate ", " names

def yesNo (value : Bool) : String :=
  if value then "yes" else "no"

end Lanewise.Text
