import DiagnosticRepair.Text.Reading

namespace DiagnosticRepair.Yaml

def endMark : Char := '\x00'

def isBreak (c : Char) : Bool :=
  c == '\n' || c == '\x85' || c == '\u2028' || c == '\u2029'

def endsLine (c : Char) : Bool :=
  c == endMark || isBreak c

def endsWord (c : Char) : Bool :=
  c == ' ' || endsLine c

def endsToken (c : Char) : Bool :=
  c == '\t' || endsWord c

def isFlowIndicator (c : Char) : Bool :=
  [',', '[', ']', '\x7b', '\x7d'].contains c

def isAnchorChar (c : Char) : Bool :=
  c.isAlphanum || c == '-' || c == '_'

def isAllowed (c : Char) : Bool :=
  c == '\t' || c == '\n' || c == '\r' || (' ' ≤ c && c ≤ '~') || c == '\x85'
    || ('\u00a0' ≤ c && c ≤ '\ufffd') || 0x10000 ≤ c.toNat

structure Cursor where
  rest : Text
  index : Nat
  line : Nat
  column : Nat

namespace Cursor

def start (document : Text) : Cursor := ⟨document, 0, 0, 0⟩

def peek (cursor : Cursor) (k : Nat) : Char :=
  cursor.rest.getD k endMark

def next (cursor : Cursor) : Char :=
  cursor.rest.headD endMark

def advance (cursor : Cursor) : Cursor :=
  match cursor.rest with
  | [] => cursor
  | c :: rest =>
      if isBreak c then ⟨rest, cursor.index + 1, cursor.line + 1, 0⟩
      else ⟨rest, cursor.index + 1, cursor.line, cursor.column + if c = '\ufeff' then 0 else 1⟩

def skip (n : Nat) (cursor : Cursor) : Cursor :=
  n.repeat advance cursor

def takeWhile (p : Char → Bool) (cursor : Cursor) : Text × Cursor :=
  let run := cursor.rest.takeWhile p
  (run, cursor.skip run.length)

def skipWhile (p : Char → Bool) (cursor : Cursor) : Cursor :=
  (cursor.takeWhile p).2

def skipSpaces (cursor : Cursor) : Cursor :=
  cursor.skipWhile (· == ' ')

def skipIndent (column : Nat) (cursor : Cursor) : Cursor :=
  let run := (cursor.rest.take (column - cursor.column)).takeWhile (· == ' ')
  cursor.skip run.length

def skipComment (cursor : Cursor) : Cursor :=
  if cursor.next = '#' then cursor.skipWhile (!endsLine ·) else cursor

def takeBreak (cursor : Cursor) : Text × Cursor :=
  let c := cursor.next
  if c = '\n' || c = '\x85' then (['\n'], cursor.advance)
  else if isBreak c then ([c], cursor.advance)
  else ([], cursor)

def seesMarker (marker : Text) (cursor : Cursor) : Bool :=
  marker.isPrefixOf cursor.rest && endsToken (cursor.peek 3)

def documentStart : Text := "---"

def documentEnd : Text := "..."

def seesSeparator (cursor : Cursor) : Bool :=
  cursor.seesMarker documentStart || cursor.seesMarker documentEnd

end Cursor

end DiagnosticRepair.Yaml
