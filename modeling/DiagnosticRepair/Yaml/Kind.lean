import DiagnosticRepair.Text.Reading
import DiagnosticRepair.Value.Calendar

namespace DiagnosticRepair.Yaml

/-- `unknown` stands for every tag that names no kind. -/
inductive Kind where
  | null
  | bool
  | int
  | float
  | timestamp
  | text
  | sequence
  | mapping
  | merge
  | defaultValue
  | unknown
  deriving DecidableEq, Repr

namespace Kind

def tagStem : Text :=
  "tag:yaml.org,2002:"

def tagNames : List (Text × Kind) := [
  ("null", null), ("bool", bool), ("int", int), ("float", float), ("timestamp", timestamp),
  ("str", text), ("seq", sequence), ("map", mapping), ("merge", merge), ("value", defaultValue)]

def ofTag (tag : Text) : Kind :=
  ((Text.after? tagStem tag).bind (List.lookup · tagNames)).getD unknown

def trueWords : List Text := [
  "yes", "Yes", "YES", "true", "True", "TRUE", "on", "On", "ON"]

def falseWords : List Text := [
  "no", "No", "NO", "false", "False", "FALSE", "off", "Off", "OFF"]

def nullWords : List Text := ["", "~", "null", "Null", "NULL"]

def infinityWords : List Text := [".inf", ".Inf", ".INF"]

def nanWords : List Text := [".nan", ".NaN", ".NAN"]

def dropSign : Text → Text
  | '-' :: rest => rest
  | '+' :: rest => rest
  | unsigned => unsigned

def isDigitOrLine (c : Char) : Bool :=
  c.isDigit || c == '_'

def sixtieths (first : Text) (parts : List Text) : Bool :=
  !parts.isEmpty && first.head?.any Char.isDigit && first.all isDigitOrLine
    && parts.all fun
      | [c] => c.isDigit
      | [c, d] => '0' ≤ c && c ≤ '5' && d.isDigit
      | _ => false

def isSexagesimalInt (text : Text) : Bool :=
  match Text.splitOn ":" text with
  | first :: parts => sixtieths first parts && first.head? ≠ some '0'
  | [] => false

def nonEmptyOf (p : Char → Bool) (text : Text) : Bool :=
  !text.isEmpty && text.all fun c => p c || c == '_'

def isUnsignedInt : Text → Bool
  | ['0'] => true
  | '0' :: 'b' :: rest => nonEmptyOf (fun c => c == '0' || c == '1') rest
  | '0' :: 'x' :: rest =>
      nonEmptyOf (fun c => c.isDigit || ('a' ≤ c && c ≤ 'f') || ('A' ≤ c && c ≤ 'F')) rest
  | '0' :: rest => nonEmptyOf (fun c => '0' ≤ c && c ≤ '7') rest
  | c :: rest => (c.isDigit && rest.all isDigitOrLine) || isSexagesimalInt (c :: rest)
  | [] => false

def isInt (text : Text) : Bool :=
  isUnsignedInt (dropSign text)

def isExponent : Text → Bool
  | [] => true
  | e :: sign :: rest =>
      (e == 'e' || e == 'E') && (sign == '-' || sign == '+') && !rest.isEmpty && rest.all Char.isDigit
  | _ => false

def isFraction (text : Text) : Bool :=
  isExponent (text.dropWhile isDigitOrLine)

def isUnsignedFloat (text : Text) : Bool :=
  let whole := text.takeWhile (· != '.')
  match text.dropWhile (· != '.') with
  | [] => false
  | _ :: fraction =>
      (whole.head?.any Char.isDigit && whole.all isDigitOrLine && isFraction fraction)
        || match Text.splitOn ":" whole with
          | first :: parts => sixtieths first parts && fraction.all isDigitOrLine
          | [] => false

def isBareFraction : Text → Bool
  | '.' :: c :: rest => c.isDigit && isFraction rest
  | _ => false

def isFloat (text : Text) : Bool :=
  isUnsignedFloat (dropSign text) || isBareFraction text
    || infinityWords.contains (dropSign text) || nanWords.contains text

end Kind

inductive Timestamp where
  | date (date : Date)
  | moment (moment : Moment)
  deriving DecidableEq, Repr

namespace Timestamp

def number (digits : Text) : Nat :=
  Text.digitsValue digits

def digits? (least most : Nat) (text : Text) : Option (Nat × Text) :=
  let run := (text.take most).takeWhile Char.isDigit
  if run.length < least then none else some (number run, text.drop run.length)

def isSpace (c : Char) : Bool :=
  c == ' ' || c == '\t'

def fraction (digits : Text) : Nat :=
  let digits := digits.take 6
  number (digits ++ List.replicate (6 - digits.length) '0')

def zone? : Text → Option (Option Int)
  | [] => some none
  | ['Z'] => some (some 0)
  | sign :: rest => do
      let (hours, rest) ← digits? 1 2 rest
      let minutes ←
        if rest.isEmpty then some 0
        else
          match ← (Text.after? ":" rest).bind (digits? 2 2) with
          | (minutes, []) => some minutes
          | _ => none
      let seconds : Nat := 3600 * hours + 60 * minutes
      if sign = '-' then some (some (-(seconds : Int)))
      else if sign = '+' then some (some seconds)
      else none

def afterDate? (text : Text) : Option Text :=
  match text with
  | 'T' :: rest => some rest
  | 't' :: rest => some rest
  | _ => (Text.run? isSpace text).map (·.2)

def clock? (text : Text) : Option (Clock × Text) := do
  let (hour, rest) ← digits? 1 2 text
  let (minute, rest) ← digits? 2 2 (← Text.after? ":" rest)
  let (second, rest) ← digits? 2 2 (← Text.after? ":" rest)
  match rest with
  | '.' :: rest =>
      some (⟨hour, minute, second, fraction (rest.takeWhile Char.isDigit)⟩,
        rest.dropWhile Char.isDigit)
  | _ => some (⟨hour, minute, second, 0⟩, rest)

def read? (text : Text) : Option Timestamp := do
  let (year, rest) ← digits? 4 4 text
  let (month, rest) ← digits? 1 2 (← Text.after? "-" rest)
  let (day, rest) ← digits? 1 2 (← Text.after? "-" rest)
  if rest.isEmpty then some (.date ⟨year, month, day⟩)
  else
    let (clock, rest) ← clock? (← afterDate? rest)
    let offset ← zone? (rest.dropWhile isSpace)
    some (.moment ⟨⟨year, month, day⟩, clock, offset⟩)

def isPlain (text : Text) : Bool :=
  match read? text with
  | some (.date _) => text.length = 10
  | some (.moment _) => true
  | none => false

end Timestamp

namespace Kind

def ofPlain (scalar : Text) : Kind :=
  if trueWords.contains scalar || falseWords.contains scalar then bool
  else if isFloat scalar then float
  else if isInt scalar then int
  else if scalar = "<<".toList then merge
  else if nullWords.contains scalar then null
  else if Timestamp.isPlain scalar then timestamp
  else if scalar = "=".toList then defaultValue
  else if ["!".toList, "&".toList, "*".toList].contains scalar then unknown
  else text

end Kind

end DiagnosticRepair.Yaml
