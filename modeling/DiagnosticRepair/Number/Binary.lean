namespace DiagnosticRepair

structure Binary where
  negative : Bool
  mantissa : Nat
  exponent : Int
  deriving DecidableEq, Repr

namespace Binary

def leastExponent : Int := -1074

def leastNormal : Nat := Nat.pow 2 52

def ofFloat? (x : Float) : Option Binary :=
  let bits := x.toBits.toNat
  let biased : Nat := bits / Nat.pow 2 52 % Nat.pow 2 11
  let fraction : Nat := bits % Nat.pow 2 52
  let negative := bits / Nat.pow 2 63 = 1
  if biased = 2047 then none
  else if biased = 0 then some ⟨negative, fraction, leastExponent⟩
  else some ⟨negative, leastNormal + fraction, leastExponent + Int.ofNat biased - 1⟩

def isZero (x : Binary) : Bool :=
  x.mantissa = 0

def toInt? (x : Binary) : Option Int :=
  let magnitude :=
    if 0 ≤ x.exponent then some (x.mantissa * Nat.pow 2 x.exponent.toNat)
    else if x.mantissa % Nat.pow 2 x.exponent.natAbs = 0 then
      some (x.mantissa / Nat.pow 2 x.exponent.natAbs)
    else none
  magnitude.map fun n => if x.negative then -(n : Int) else n

end Binary

end DiagnosticRepair
