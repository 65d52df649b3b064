import DiagnosticRepair.Number.Numeral
import DiagnosticRepair.Text.Reading

namespace DiagnosticRepair.FloatNumeral

def exponentLimit : Int := 400

def ofDecimal (digits : Nat) (exponent : Int) : Float :=
  let magnitude := exponent + (Text.ofNat digits).length
  if digits = 0 || magnitude < -exponentLimit then 0
  else if exponentLimit < magnitude then 1 / 0
  else Float.ofScientific digits (exponent < 0) exponent.natAbs

def exponent? : Text → Option Int
  | [] => some 0
  | e :: rest =>
      if e = 'e' || e = 'E' then
        let (negative, digits) := Numeral.splitSign rest
        if !digits.isEmpty && digits.all Text.isDigit then
          let n : Int := Text.digitsValue digits
          some (if negative then -n else n)
        else none
      else none

def unsigned? (text : Text) : Option Float := do
  let whole := text.takeWhile Text.isDigit
  let rest := text.dropWhile Text.isDigit
  let (fraction, rest) :=
    match rest with
    | '.' :: rest => (rest.takeWhile Text.isDigit, rest.dropWhile Text.isDigit)
    | _ => ([], rest)
  if whole.isEmpty && fraction.isEmpty then none
  else
    let exponent ← exponent? rest
    some (ofDecimal (Text.digitsValue (whole ++ fraction)) (exponent - fraction.length))

def read? (text : Text) : Option Float := do
  let (negative, unsigned) := Numeral.splitSign (Text.trim text)
  let magnitude ←
    if unsigned = "inf".toList || unsigned = "infinity".toList then some (1 / 0)
    else if unsigned = "nan".toList then some (0 / 0)
    else unsigned? unsigned
  some (if negative then -magnitude else magnitude)

end DiagnosticRepair.FloatNumeral
