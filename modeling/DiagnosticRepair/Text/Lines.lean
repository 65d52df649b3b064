import DiagnosticRepair.Text.Basic

namespace DiagnosticRepair

namespace Text

def isTerminator (c : Char) : Bool :=
  ['\n', '\r', '\x0b', '\x0c', '\x1c', '\x1d', '\x1e', '\x85', '\u2028', '\u2029'].contains c

def lines : Text → List Text
  | [] => []
  | '\r' :: '\n' :: rest => [] :: lines rest
  | c :: rest =>
      if isTerminator c then [] :: lines rest
      else
        match lines rest with
        | [] => [[c]]
        | line :: more => (c :: line) :: more

def unifyLineEnds : Text → Text
  | [] => []
  | '\r' :: '\n' :: rest => '\n' :: unifyLineEnds rest
  | c :: rest => (if c == '\r' then '\n' else c) :: unifyLineEnds rest

end Text

inductive LineEnding where
  | lf
  | crlf
  deriving DecidableEq, Repr

namespace LineEnding

def text : LineEnding → Text
  | .lf => ['\n']
  | .crlf => ['\r', '\n']

def ofText (file : Text) : LineEnding :=
  if Text.occursIn ['\r', '\n'] file then .crlf else .lf

def split (ending : LineEnding) (file : Text) : List Text :=
  Text.splitOn ending.text file

def join (ending : LineEnding) (lines : List Text) : Text :=
  Text.join ending.text lines

theorem text_ne_nil (ending : LineEnding) : ending.text ≠ [] := by
  cases ending <;> simp [text]

theorem join_split (ending : LineEnding) (file : Text) : ending.join (ending.split file) = file :=
  Text.join_splitOn _ _ ending.text_ne_nil

theorem split_ne_nil (ending : LineEnding) (file : Text) : ending.split file ≠ [] :=
  Text.splitOn_ne_nil _ _

end LineEnding

end DiagnosticRepair
