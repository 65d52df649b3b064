import DiagnosticRepair.Text.DecimalDigit
import DiagnosticRepair.Text.Hex

namespace DiagnosticRepair

abbrev Bytes := List UInt8

namespace Utf8

def encode (text : Text) : Bytes :=
  text.flatMap String.utf8EncodeChar

inductive Defect where
  | badStart
  | badContinuation
  | cutOff
  deriving DecidableEq, Repr

/-- The refused bytes are `span` many from `position` on, the first being `lead`. -/
structure DecodeError where
  defect : Defect
  position : Nat
  span : Nat
  lead : UInt8
  deriving DecidableEq, Repr

namespace DecodeError

def reason : Defect → Text
  | .badStart => "invalid start byte"
  | .badContinuation => "invalid continuation byte"
  | .cutOff => "unexpected end of data"

def message (e : DecodeError) : Text :=
  let place :=
    if e.span = 1 then "byte 0x" ++ Text.hex 2 e.lead.toNat ++ " in position " ++ Text.ofNat e.position
    else "bytes in position " ++ Text.ofNat e.position ++ "-" ++ Text.ofNat (e.position + e.span - 1)
  "'utf-8' codec can't decode " ++ place ++ ": " ++ reason e.defect

end DecodeError

/-- A character begun: its first byte, the bytes seen, the bits they give, how many bytes are
missing and between which bounds the next one lies. -/
structure Partial where
  lead : UInt8
  seen : Nat
  value : Nat
  missing : Nat
  low : UInt8
  high : UInt8
  deriving DecidableEq

def begin? (b : UInt8) : Option Partial :=
  if 0xC2 ≤ b && b ≤ 0xDF then some ⟨b, 1, b.toNat - 0xC0, 1, 0x80, 0xBF⟩
  else if 0xE0 ≤ b && b ≤ 0xEF then
    some ⟨b, 1, b.toNat - 0xE0, 2, if b = 0xE0 then 0xA0 else 0x80, if b = 0xED then 0x9F else 0xBF⟩
  else if 0xF0 ≤ b && b ≤ 0xF4 then
    some ⟨b, 1, b.toNat - 0xF0, 3, if b = 0xF0 then 0x90 else 0x80, if b = 0xF4 then 0x8F else 0xBF⟩
  else none

def Partial.error (p : Partial) (defect : Defect) (position : Nat) : DecodeError :=
  ⟨defect, position - p.seen, p.seen, p.lead⟩

def decodeFrom : Nat → Option Partial → Bytes → Except DecodeError Text
  | _, none, [] => .ok []
  | position, some p, [] => .error (p.error .cutOff position)
  | position, none, b :: rest =>
      if b < 0x80 then (decodeFrom (position + 1) none rest).map (Char.ofNat b.toNat :: ·)
      else
        match begin? b with
        | none => .error ⟨.badStart, position, 1, b⟩
        | some p => decodeFrom (position + 1) (some p) rest
  | position, some p, b :: rest =>
      if p.low ≤ b && b ≤ p.high then
        let value := 64 * p.value + (b.toNat - 0x80)
        if p.missing ≤ 1 then (decodeFrom (position + 1) none rest).map (Char.ofNat value :: ·)
        else
          decodeFrom (position + 1) (some ⟨p.lead, p.seen + 1, value, p.missing - 1, 0x80, 0xBF⟩) rest
      else .error (p.error .badContinuation position)

def decode (bytes : Bytes) : Except DecodeError Text :=
  decodeFrom 0 none bytes

/-- Decoding piece by piece: bytes left over at the end are refused by themselves, so that their
position is counted from the first of them. -/
def decodeStream (bytes : Bytes) : Except DecodeError Text :=
  (decode bytes).mapError fun e => if e.defect = .cutOff then { e with position := 0 } else e

end Utf8

end DiagnosticRepair
