import DiagnosticRepair.Text.Basic

namespace DiagnosticRepair.Text

def hexDigit (n : Nat) : Char :=
  Nat.digitChar (n % 16)

def hex : Nat → Nat → Text
  | 0, _ => []
  | width + 1, n => hex width (n / 16) ++ [hexDigit n]

end DiagnosticRepair.Text
