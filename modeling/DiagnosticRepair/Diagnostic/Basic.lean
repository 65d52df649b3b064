import DiagnosticRepair.Text.Blank
import DiagnosticRepair.Text.Lines
import DiagnosticRepair.Text.Reading
import DiagnosticRepair.Number.Numeral

namespace DiagnosticRepair

structure Diagnostic where
  file : Text
  line : Int
  column : Int
  code : Text
  message : Text
  wholeLine : Text
  deriving DecidableEq

namespace Diagnostic

structure Marker where
  line : Text
  column : Text
  code : Text
  message : Text
  deriving DecidableEq

def isCodeChar (c : Char) : Bool :=
  !Text.isBlank c && c != ':'

def Marker.read? (text : Text) : Option Marker := do
  let (line, rest) ← Text.run? Text.isDigit (← Text.after? "(" text)
  let (column, rest) ← Text.run? Text.isDigit (← Text.after? "," rest)
  let (code, rest) ← Text.run? isCodeChar (← Text.after? "): error " rest)
  let message ← Text.after? ": " rest
  if message.isEmpty then none else some ⟨line, column, code, message⟩

/-- The shortest non-empty start of a line that a marker follows, and that marker. -/
def findMarker? : Text → Option (Text × Marker)
  | [] => none
  | c :: rest =>
      match Marker.read? rest with
      | some marker => some ([c], marker)
      | none => (findMarker? rest).map fun (file, marker) => (c :: file, marker)

def ofLine? (line : Text) : Except TooManyDigits (Option Diagnostic) :=
  let raw := Text.trim line
  match findMarker? raw with
  | none => .ok none
  | some (file, marker) => do
      let number ← Text.readDigits marker.line
      let column ← Text.readDigits marker.column
      .ok (some ⟨file, number, column, marker.code, marker.message, raw⟩)

def ofLines : List Text → Except TooManyDigits (List Diagnostic)
  | [] => .ok []
  | line :: rest => do
      let found ← ofLine? line
      let others ← ofLines rest
      .ok (found.toList ++ others)

def parse (output : Text) : Except TooManyDigits (List Diagnostic) :=
  ofLines (Text.lines output)

def parseChunks (chunks : List Text) : Except TooManyDigits (List Diagnostic) :=
  ofLines (chunks.flatMap Text.lines)

def location (diagnostic : Diagnostic) : Text :=
  diagnostic.file ++ ":" ++ Text.ofInt diagnostic.line

def render (diagnostic : Diagnostic) : Text :=
  diagnostic.location ++ " - " ++ diagnostic.message

theorem ofLines_append (xs ys : List Text) :
    ofLines (xs ++ ys) = (do
      let first ← ofLines xs
      let second ← ofLines ys
      .ok (first ++ second)) := by
  induction xs with
  | nil => cases h : ofLines ys <;> simp [ofLines, h, bind, Except.bind]
  | cons x rest ih =>
      simp only [List.cons_append, ofLines, ih]
      cases ofLine? x <;> simp only [bind, Except.bind]
      cases ofLines rest <;> simp only []
      cases ofLines ys <;> simp

end Diagnostic

end DiagnosticRepair
