import DiagnosticRepair.Text.Basic

namespace DiagnosticRepair

/-- The ascending code points at which membership changes, the first being the least member. -/
structure CharSet where
  changes : List Nat

namespace CharSet

def memFrom : List Nat → Nat → Bool
  | [], _ => false
  | change :: rest, n => if n < change then false else !memFrom rest n

def mem (set : CharSet) (c : Char) : Bool :=
  memFrom set.changes c.toNat

end CharSet

/-- Every `stride`-th code point from `first` to `last` moves by `offset`. -/
structure CharShift where
  first : Nat
  last : Nat
  stride : Nat
  offset : Int

namespace CharShift

def image? (shift : CharShift) (c : Char) : Option Char :=
  let n := c.toNat
  if shift.first ≤ n && n ≤ shift.last && (n - shift.first) % shift.stride == 0 then
    some (Char.ofNat (Int.ofNat n + shift.offset).toNat)
  else none

def applyTable (table : List CharShift) (c : Char) : Char :=
  (table.findSome? (·.image? c)).getD c

end CharShift

end DiagnosticRepair
