import Lanewise.Document.Basic
import Lanewise.Pitfalls
import Lanewise.TargetFault
import Lanewise.Text.Quoted

namespace Lanewise

inductive Found where
  | null
  | bool (value : Bool)
  | int (value : Int)
  | float (written : String)
  | text (value : String)
  | seq
  | map
  deriving DecidableEq, Repr

namespace Found

def floatStyle : DocumentFormat → Binary64.FloatStyle
  | .json => Binary64.shortStyle
  | .toml => Binary64.plainStyle

def ofDocument (format : DocumentFormat) : Document → Found
  | .null => null
  | .bool value => bool value
  | .int value => int value
  | .float bits => float ((floatStyle format).text bits)
  | .text value => text value
  | .moment => map
  | .seq _ | .sections _ => seq
  | .map _ => map

def message : Found → String
  | null => "null"
  | bool value => "boolean \x60" ++ toString value ++ "\x60"
  | int value => "integer \x60" ++ toString value ++ "\x60"
  | float written => "floating point \x60" ++ written ++ "\x60"
  | text value => "string " ++ Text.quoted value
  | seq => "sequence"
  | map => "map"

end Found

inductive Misfit where
  | invalidType (found : Found) (expected : String)
  | invalidValue (found : Found) (expected : String)
  | invalidLength (length : Nat) (expected : String)
  | missingField (key : String)
  | unknownVariant (name : String) (variants : List String)
  | notTextOrTable
  | noElement
  | severalElements
  | variantContent
  | variantSections
  | notATable (found : String)
  | badName (cause : TargetFault)
  | badFlags (cause : FlagFault)
  deriving DecidableEq

def alternatives (names : List String) : String :=
  match names.map fun name => "\x60" ++ name ++ "\x60" with
  | [] => "there are no variants"
  | [only] => "expected " ++ only
  | [first, second] => "expected " ++ first ++ " or " ++ second
  | several => "expected one of " ++ Text.commaList several

def Misfit.message : Misfit → String
  | invalidType found expected => "invalid type: " ++ found.message ++ ", expected " ++ expected
  | invalidValue found expected => "invalid value: " ++ found.message ++ ", expected " ++ expected
  | invalidLength length expected =>
      "invalid length " ++ toString length ++ ", expected " ++ expected
  | missingField key => "missing field \x60" ++ key ++ "\x60"
  | unknownVariant name variants =>
      "unknown variant \x60" ++ name ++ "\x60, " ++ alternatives variants
  | notTextOrTable => "wanted string or table"
  | noElement => "wanted exactly 1 element, found 0 elements"
  | severalElements => "wanted exactly 1 element, more than 1 element"
  | variantContent => "expected empty table"
  | variantSections => "expected empty array"
  | notATable found => "expected table, found " ++ found
  | badName cause => cause.message
  | badFlags cause => cause.message

end Lanewise
