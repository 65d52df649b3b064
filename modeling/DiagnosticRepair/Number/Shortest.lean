import DiagnosticRepair.Number.Binary
import DiagnosticRepair.Text.DecimalDigit

namespace DiagnosticRepair

structure Decimal where
  digits : Nat
  exponent : Int
  deriving DecidableEq, Repr

namespace Decimal

/-- Numbers over one positive denominator: a value and the ends of the interval of numbers that
round to it, which belong to it if `closed`. -/
structure Rounding where
  low : Nat
  value : Nat
  high : Nat
  denominator : Nat
  closed : Bool

def Rounding.ofBinary (x : Binary) : Rounding :=
  let scale (n : Nat) : Nat := n * Nat.pow 2 (x.exponent - 2).toNat
  let denominator := Nat.pow 2 (2 - x.exponent).toNat
  let nearer := x.mantissa = Binary.leastNormal && Binary.leastExponent < x.exponent
  ⟨scale (4 * x.mantissa - if nearer then 1 else 2), scale (4 * x.mantissa),
    scale (4 * x.mantissa + 2), denominator, x.mantissa % 2 = 0⟩

def Rounding.admits (r : Rounding) (decimal : Decimal) : Bool :=
  let n := decimal.digits * Nat.pow 10 decimal.exponent.toNat * r.denominator
  let unit := Nat.pow 10 (-decimal.exponent).toNat
  if r.closed then r.low * unit ≤ n && n ≤ r.high * unit
  else r.low * unit < n && n < r.high * unit

def Rounding.onGrid? (r : Rounding) (exponent : Int) : Option Decimal :=
  let top := r.value * Nat.pow 10 (-exponent).toNat
  let unit := r.denominator * Nat.pow 10 exponent.toNat
  let below := top / unit
  let twice := 2 * (top % unit)
  let down : Decimal := ⟨below, exponent⟩
  let up : Decimal := ⟨below + 1, exponent⟩
  let downFirst := twice < unit || (twice = unit && below % 2 = 0)
  if downFirst && r.admits down then some down
  else if r.admits up then some up
  else if r.admits down then some down
  else none

def Rounding.magnitude (r : Rounding) : Int :=
  if r.denominator ≤ r.value then (Text.ofNat (r.value / r.denominator)).length
  else 1 - ((Text.ofNat (r.denominator / r.value)).length : Int)

def Rounding.shortest (r : Rounding) : Decimal :=
  let start := r.magnitude + 1
  ((List.range 20).findSome? fun (n : Nat) => r.onGrid? (start - n)).getD ⟨0, 0⟩

def trimZeros : Nat → Decimal → Decimal
  | 0, decimal => decimal
  | bound + 1, decimal =>
      if decimal.digits ≠ 0 && decimal.digits % 10 = 0 then
        trimZeros bound ⟨decimal.digits / 10, decimal.exponent + 1⟩
      else decimal

def shortest (x : Binary) : Decimal :=
  if x.isZero then ⟨0, 0⟩ else trimZeros 20 (Rounding.ofBinary x).shortest

end Decimal

/-- How a floating-point number is written: positional, with at least one digit after the point,
while the point stands between `leastPoint` and `greatestPoint`, else with an exponent. -/
structure FloatStyle where
  leastPoint : Int
  greatestPoint : Int
  exponentDigits : Nat

namespace FloatStyle

def standard : FloatStyle := ⟨-3, 16, 2⟩

def magnitudeText (style : FloatStyle) (decimal : Decimal) : Text :=
  let digits := Text.ofNat decimal.digits
  let point := decimal.exponent + digits.length
  if style.leastPoint ≤ point && point ≤ style.greatestPoint then
    if point ≤ 0 then "0." ++ List.replicate (-point).toNat '0' ++ digits
    else
      let padded := digits ++ List.replicate (point - digits.length).toNat '0'
      let after := padded.drop point.toNat
      padded.take point.toNat ++ "." ++ if after.isEmpty then ['0'] else after
  else
    let exponent := point - 1
    let size := Text.ofNat exponent.natAbs
    digits.take 1 ++ (if digits.length = 1 then [] else '.' :: digits.drop 1)
      ++ (if exponent < 0 then "e-" else "e+")
      ++ List.replicate (style.exponentDigits - size.length) '0' ++ size

def text (style : FloatStyle) (x : Float) : Text :=
  match Binary.ofFloat? x with
  | none => if x.isNaN then "nan" else if x < 0 then "-inf" else "inf"
  | some b => (if b.negative then "-" else "") ++ style.magnitudeText (Decimal.shortest b)

end FloatStyle

end DiagnosticRepair
