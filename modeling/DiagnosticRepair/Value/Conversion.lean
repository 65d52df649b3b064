import DiagnosticRepair.Value.Basic
import DiagnosticRepair.Path.Basic
import DiagnosticRepair.Number.Numeral
import DiagnosticRepair.Settings.Library
import DiagnosticRepair.Text.Reading

namespace DiagnosticRepair

inductive Complaint where
  | notText
  | notList
  | notPath
  | notInteger
  | unreadableInteger
  | hasFraction
  | tooLarge
  | notFinite
  | negative
  | unknownField
  | violated (message : Text)
  deriving DecidableEq

namespace Complaint

def code : Complaint → Text
  | notText => "string_type"
  | notList => "list_type"
  | notPath => "path_type"
  | notInteger => "int_type"
  | unreadableInteger => "int_parsing"
  | hasFraction => "int_from_float"
  | tooLarge => "int_parsing_size"
  | notFinite => "finite_number"
  | negative => "greater_than_equal"
  | unknownField => "extra_forbidden"
  | violated _ => "value_error"

def message? : Complaint → Option Text
  | violated message => some ("Value error, " ++ message)
  | _ => none

end Complaint

namespace Value

def wordsFrom : Nat → List Value → Except (List (Option Nat × Complaint)) (List Text)
  | _, [] => .ok []
  | index, item :: rest =>
      match item, wordsFrom (index + 1) rest with
      | text word, .ok words => .ok (word :: words)
      | text _, .error complaints => .error complaints
      | _, .ok _ => .error [(some index, .notText)]
      | _, .error complaints => .error ((some index, .notText) :: complaints)

def toWords : Value → Except (List (Option Nat × Complaint)) (List Text)
  | list items => wordsFrom 0 items
  | _ => .error [(none, .notList)]

def toPath : Value → Except Complaint Path
  | text path => .ok (Path.ofText path)
  | _ => .error .notPath

-- Information separators are no white space around a number.
def isNumberBlank (c : Char) : Bool :=
  Text.isBlank c && !('\x1c' ≤ c && c ≤ '\x1f')

def trimNumber (text : Text) : Text :=
  Text.dropEndWhile isNumberBlank (text.dropWhile isNumberBlank)

def isDigitGroup (text : Text) : Bool :=
  (Text.splitOn "_" text).all fun group => !group.isEmpty && group.all Char.isDigit

def isZeroFraction : Text → Bool
  | [] => true
  | '.' :: zeros => !zeros.isEmpty && zeros.all (· == '0')
  | _ => false

def readInteger (text : Text) : Except Complaint Int :=
  let text := trimNumber text
  let (negative, unsigned) := Numeral.splitSign text
  let whole := unsigned.takeWhile (· != '.')
  if TooManyDigits.limit < text.length then .error .tooLarge
  else if isDigitGroup whole && isZeroFraction (unsigned.drop whole.length) then
    let n : Int := Text.digitsValue (whole.filter (· != '_'))
    .ok (if negative then -n else n)
  else .error .unreadableInteger

def floatLimit : Nat := Nat.pow 2 63

def floatToInteger (x : Float) : Except Complaint Int :=
  match Binary.ofFloat? x with
  | none => .error .notFinite
  | some b =>
      match b.toInt? with
      | none => .error .hasFraction
      | some n => if floatLimit ≤ n.natAbs then .error .tooLarge else .ok n

def toInteger : Value → Except Complaint Int
  | bool b => .ok (if b then 1 else 0)
  | int n => .ok n
  | float x => floatToInteger x
  | text t => readInteger t
  | _ => .error .notInteger

def coercions : Settings.Coercions Value Complaint where
  words := toWords
  path := toPath
  integer := toInteger
  negative := fun _ => .negative
  unknown := fun _ => .unknownField
  violated := fun message _ => .violated message
  report := fun issues => Text.ofNat issues.length ++ " validation error(s)"

end Value

end DiagnosticRepair
