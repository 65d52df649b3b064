import DiagnosticRepair.Text.DecimalDigit
import DiagnosticRepair.Text.Blank
import DiagnosticRepair.Text.Quoted

namespace DiagnosticRepair

structure TooManyDigits where
  count : Nat
  deriving DecidableEq, Repr

namespace TooManyDigits

def limit : Nat := 4300

def message (e : TooManyDigits) : Text :=
  "Exceeds the limit (" ++ Text.ofNat limit ++ " digits) for integer string conversion: value has "
    ++ Text.ofNat e.count ++ " digits; use sys.set_int_max_str_digits() to increase the limit"

end TooManyDigits

def Text.readDigits (digits : Text) : Except TooManyDigits Nat :=
  if TooManyDigits.limit < digits.length then .error ⟨digits.length⟩
  else .ok (Text.digitsValue digits)

inductive NumeralError where
  | malformed (base : Nat) (text : Text)
  | tooManyDigits (error : TooManyDigits)
  deriving DecidableEq

def NumeralError.message : NumeralError → Text
  | .malformed base text =>
      "invalid literal for int() with base " ++ Text.ofNat base ++ ": " ++ Text.quoted text
  | .tooManyDigits e => e.message

namespace Numeral

def digitValue? (c : Char) : Option Nat :=
  if 'a' ≤ c && c ≤ 'z' then some (c.toNat - 'a'.toNat + 10)
  else if 'A' ≤ c && c ≤ 'Z' then some (c.toNat - 'A'.toNat + 10)
  else Text.digitValue? c

def readFrom (base : Nat) : Nat → Text → Option Nat
  | n, [] => some n
  | n, c :: rest =>
      match digitValue? c with
      | none => none
      | some d => if d < base then readFrom base (base * n + d) rest else none

def baseLetters : Nat → List Char
  | 2 => ['b', 'B']
  | 8 => ['o', 'O']
  | 16 => ['x', 'X']
  | _ => []

def dropBase (base : Nat) : Text → Text
  | '0' :: letter :: rest =>
      if (baseLetters base).contains letter then rest else '0' :: letter :: rest
  | text => text

def splitSign : Text → Bool × Text
  | '-' :: rest => (true, rest)
  | '+' :: rest => (false, rest)
  | text => (false, text)

def read (base : Nat) (text : Text) : Except NumeralError Int :=
  let (negative, unsigned) := splitSign (Text.trim text)
  let digits := dropBase base unsigned
  match if digits.isEmpty then none else readFrom base 0 digits with
  | none => .error (.malformed base text)
  | some n =>
      if base = 10 && TooManyDigits.limit < digits.length then
        .error (.tooManyDigits ⟨digits.length⟩)
      else .ok (if negative then -(n : Int) else n)

end Numeral

end DiagnosticRepair
