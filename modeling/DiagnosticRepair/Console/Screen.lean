import DiagnosticRepair.Text.Basic

namespace DiagnosticRepair.Screen

def escape : Char := '\x1b'

def isParameter (c : Char) : Bool :=
  c == ';' || c == '?' || c.isDigit

def sequenceLength? : Text → Option Nat
  | c :: '[' :: rest =>
      let parameters := rest.takeWhile isParameter
      if c = escape && (rest.drop parameters.length).head?.any Char.isAlpha then
        some (parameters.length + 3)
      else none
  | _ => none

def plainFrom : Nat → Text → Text
  | _, [] => []
  | skip + 1, _ :: rest => plainFrom skip rest
  | 0, c :: rest =>
      match sequenceLength? (c :: rest) with
      | some n => plainFrom (n - 1) rest
      | none => c :: plainFrom 0 rest

def plain (text : Text) : Text :=
  plainFrom 0 text

def lines (texts : List Text) : Text :=
  Text.replaceAll ['\r', '\n'] ['\n'] (texts.flatMap fun text => plain (text ++ ['\n']))

end DiagnosticRepair.Screen
