import DiagnosticRepair.Yaml.Kind
import DiagnosticRepair.Value.Basic
import DiagnosticRepair.Number.FloatNumeral
import DiagnosticRepair.Text.Case

namespace DiagnosticRepair.Yaml

inductive ScalarError where
  | noDigits
  | notInteger (error : NumeralError)
  | notNumber (text : Text)
  | notTruthValue (text : Text)
  | notTimestamp
  | calendar (error : CalendarError)
  deriving DecidableEq

def ScalarError.message? : ScalarError → Option Text
  | .notInteger e => some e.message
  | .notNumber text => some ("could not convert string to float: " ++ Text.quoted text)
  | .calendar e => some e.message
  | _ => none

namespace Scalar

def dropLines (text : Text) : Text :=
  text.filter (· != '_')

def splitSign (text : Text) : Except ScalarError (Bool × Text) :=
  if text.isEmpty then .error .noDigits else .ok (Numeral.splitSign text)

def readInt (base : Nat) (text : Text) : Except ScalarError Int :=
  (Numeral.read base text).mapError .notInteger

def sexagesimal (parts : List Int) : Int :=
  parts.foldl (fun n part => 60 * n + part) 0

def unsignedInt (text : Text) : Except ScalarError Int :=
  if text = ['0'] then .ok 0
  else
    match text with
    | [] => .error .noDigits
    | '0' :: 'b' :: rest => readInt 2 rest
    | '0' :: 'x' :: rest => readInt 16 rest
    | '0' :: rest => readInt 8 ('0' :: rest)
    | text =>
        if text.contains ':' then do
          return sexagesimal (← (Text.splitOn ":" text).mapM (readInt 10))
        else readInt 10 text

def int (text : Text) : Except ScalarError Int := do
  let (negative, unsigned) ← splitSign (dropLines text)
  let n ← unsignedInt unsigned
  return if negative then -n else n

def readFloat (text : Text) : Except ScalarError Float :=
  match FloatNumeral.read? text with
  | some x => .ok x
  | none => .error (.notNumber text)

def sexagesimalFloat (parts : List Float) : Float :=
  (parts.reverse.foldl
    (fun (sum, unit) part => (sum + part * unit, unit * 60)) ((0, 1) : Float × Float)).1

def unsignedFloat (text : Text) : Except ScalarError Float :=
  if text = ".inf".toList then .ok (1 / 0)
  else if text = ".nan".toList then .ok (0 / 0)
  else if text.contains ':' then do
    return sexagesimalFloat (← (Text.splitOn ":" text).mapM readFloat)
  else readFloat text

def float (text : Text) : Except ScalarError Float := do
  let (negative, unsigned) ← splitSign (Text.lower (dropLines text))
  let x ← unsignedFloat unsigned
  return if negative then -x else x

def bool (text : Text) : Except ScalarError Bool :=
  let word := Text.lower text
  if (Kind.trueWords.map Text.lower).contains word then .ok true
  else if (Kind.falseWords.map Text.lower).contains word then .ok false
  else .error (.notTruthValue word)

def timestamp (text : Text) : Except ScalarError Value :=
  match Timestamp.read? text with
  | none => .error .notTimestamp
  | some (.date date) => (date.check.mapError .calendar).map fun _ => .date date
  | some (.moment moment) => (moment.check.mapError .calendar).map fun _ => .moment moment

def value? (kind : Kind) (text : Text) : Option (Except ScalarError Value) :=
  match kind with
  | .null => some (.ok .null)
  | .bool => some ((bool text).map .bool)
  | .int => some ((int text).map .int)
  | .float => some ((float text).map .float)
  | .timestamp => some (timestamp text)
  | .text => some (.ok (.text text))
  | _ => none

end Scalar

end DiagnosticRepair.Yaml
