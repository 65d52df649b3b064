import DiagnosticRepair.Text.Basic

namespace DiagnosticRepair.Text

/-- The white space of Unicode 14 with the four information separators. -/
def blanks : Text :=
  ['\t', '\n', '\x0b', '\x0c', '\r', '\x1c', '\x1d', '\x1e', '\x1f', ' ', '\x85', '\u00a0',
    '\u1680', '\u2000', '\u2001', '\u2002', '\u2003', '\u2004', '\u2005', '\u2006', '\u2007',
    '\u2008', '\u2009', '\u200a', '\u2028', '\u2029', '\u202f', '\u205f', '\u3000']

def isBlank (c : Char) : Bool :=
  blanks.contains c

def allBlank (text : Text) : Bool :=
  text.all isBlank

def trimStart (text : Text) : Text :=
  text.dropWhile isBlank

def dropEndWhile (p : Char → Bool) : Text → Text
  | [] => []
  | c :: rest =>
      match dropEndWhile p rest with
      | [] => if p c then [] else [c]
      | kept => c :: kept

def trimEnd (text : Text) : Text :=
  dropEndWhile isBlank text

def trim (text : Text) : Text :=
  trimEnd (trimStart text)

end DiagnosticRepair.Text
