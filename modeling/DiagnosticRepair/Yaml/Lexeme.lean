import DiagnosticRepair.Yaml.Cursor
import DiagnosticRepair.Yaml.Token
import DiagnosticRepair.Number.Numeral
import DiagnosticRepair.Text.Utf8

namespace DiagnosticRepair.Yaml

abbrev Reader (α : Type) := Cursor → Except ReadError (α × Cursor)

def malformed {α : Type} : Except ReadError α :=
  .error .malformed

def expect (c : Char) (cursor : Cursor) : Except ReadError Cursor :=
  if cursor.next = c then .ok cursor.advance else malformed

def require (p : Char → Bool) (cursor : Cursor) : Except ReadError Unit :=
  if p cursor.next then .ok () else malformed

def takeSome (p : Char → Bool) : Reader Text := fun cursor =>
  let (run, cursor) := cursor.takeWhile p
  if run.isEmpty then malformed else .ok (run, cursor)

def hexValue (digits : Text) : Nat :=
  (Numeral.readFrom 16 0 digits).getD 0

def isHexDigit (c : Char) : Bool :=
  c.isDigit || ('a' ≤ c && c ≤ 'f') || ('A' ≤ c && c ≤ 'F')

def readHex (width : Nat) : Reader Nat := fun cursor =>
  let digits := cursor.rest.take width
  if digits.length = width && digits.all isHexDigit then
    .ok (hexValue digits, cursor.skip width)
  else malformed

namespace Lexeme

def restOfLine (cursor : Cursor) : Except ReadError Cursor := do
  let cursor := cursor.skipSpaces.skipComment
  require endsLine cursor
  return cursor.takeBreak.2

def isTagChar (c : Char) : Bool :=
  c.isAlphanum || "-;/?:@&=+$,_.!~*'()[]".toList.contains c

def escapedBytes : Nat → Reader Bytes
  | 0, _ => malformed
  | bound + 1, cursor => do
      if cursor.next = '%' then
        let (byte, cursor) ← readHex 2 cursor.advance
        let (rest, cursor) ← escapedBytes bound cursor
        return (UInt8.ofNat byte :: rest, cursor)
      else return ([], cursor)

def tagCharsFrom : Nat → Reader Text
  | 0, _ => malformed
  | bound + 1, cursor => do
      if isTagChar cursor.next then
        let (rest, cursor') ← tagCharsFrom bound cursor.advance
        return (cursor.next :: rest, cursor')
      else if cursor.next = '%' then
        let (bytes, cursor) ← escapedBytes (cursor.rest.length + 1) cursor
        match Utf8.decode bytes with
        | .error _ => malformed
        | .ok text =>
            let (rest, cursor) ← tagCharsFrom bound cursor
            return (text ++ rest, cursor)
      else return ([], cursor)

def tagChars : Reader Text := fun cursor => do
  let (text, cursor) ← tagCharsFrom (cursor.rest.length + 1) cursor
  if text.isEmpty then malformed else return (text, cursor)

def tagHandle : Reader Text := fun cursor => do
  let cursor ← expect '!' cursor
  if cursor.next = ' ' then return (['!'], cursor)
  else
    let (name, cursor) := cursor.takeWhile isAnchorChar
    let cursor ← expect '!' cursor
    return ('!' :: name ++ ['!'], cursor)

def hasHandle (cursor : Cursor) : Bool :=
  (cursor.advance.rest.takeWhile fun c => !endsWord c).contains '!'

def tagName : Reader TagName := fun cursor =>
  if cursor.peek 1 = '<' then do
    let (text, cursor) ← tagChars (cursor.skip 2)
    return (⟨none, text⟩, ← expect '>' cursor)
  else if endsToken (cursor.peek 1) then .ok (⟨none, ['!']⟩, cursor.advance)
  else if hasHandle cursor then do
    let (handle, cursor) ← tagHandle cursor
    let (text, cursor) ← tagChars cursor
    return (⟨some handle, text⟩, cursor)
  else do
    let (text, cursor) ← tagChars cursor.advance
    return (⟨some ['!'], text⟩, cursor)

def tag : Reader Token := fun cursor => do
  let (name, cursor) ← tagName cursor
  require endsWord cursor
  return (.tag name, cursor)

def anchorName : Reader Text := fun cursor => do
  let (name, cursor) ← takeSome isAnchorChar cursor.advance
  require (fun c => endsToken c || "?:,]\x7d%@`".toList.contains c) cursor
  return (name, cursor)

def versionDirective : Reader Directive := fun cursor => do
  let (major, cursor) ← takeSome Char.isDigit cursor.skipSpaces
  let (_, cursor) ← takeSome Char.isDigit (← expect '.' cursor)
  require endsWord cursor
  return (.version ((Numeral.readFrom 10 0 major).getD 0), cursor)

def tagDirective : Reader Directive := fun cursor => do
  let (handle, cursor) ← tagHandle cursor.skipSpaces
  require (· == ' ') cursor
  let (stem, cursor) ← tagChars cursor.skipSpaces
  require endsWord cursor
  return (.tagHandle handle stem, cursor)

def directive : Reader Token := fun cursor => do
  let (name, cursor) ← takeSome isAnchorChar cursor.advance
  require endsWord cursor
  let (directive, cursor) ←
    if name = "YAML".toList then versionDirective cursor
    else if name = "TAG".toList then tagDirective cursor
    else pure (.other, cursor.skipWhile (!endsLine ·))
  return (.directive directive, ← restOfLine cursor)

def escapes : List (Char × Char) := [
  ('0', '\x00'), ('a', '\x07'), ('b', '\x08'), ('t', '\t'), ('\t', '\t'), ('n', '\n'),
  ('v', '\x0b'), ('f', '\x0c'), ('r', '\r'), ('e', '\x1b'), (' ', ' '), ('"', '"'),
  ('\\', '\\'), ('/', '/'), ('N', '\x85'), ('_', '\u00a0'), ('L', '\u2028'), ('P', '\u2029')]

def hexEscapes : List (Char × Nat) := [('x', 2), ('u', 4), ('U', 8)]

def characterOf (code : Nat) : Except ReadError Char :=
  if code < 0x110000 then .ok (Char.ofNat code) else .error .noSuchCharacter

def quotedBreaks : Nat → Reader Text
  | 0, _ => malformed
  | bound + 1, cursor => do
      if cursor.seesSeparator then malformed
      else
        let cursor := cursor.skipWhile fun c => c == ' ' || c == '\t'
        if isBreak cursor.next then
          let (lineBreak, cursor) := cursor.takeBreak
          let (rest, cursor) ← quotedBreaks bound cursor
          return (lineBreak ++ rest, cursor)
        else return ([], cursor)

def foldBreak (lineBreak others : Text) : Text :=
  if lineBreak ≠ ['\n'] then lineBreak ++ others
  else if others.isEmpty then [' ']
  else others

def quotedBlanks : Reader Text := fun cursor => do
  let (blanks, cursor) := cursor.takeWhile fun c => c == ' ' || c == '\t'
  if cursor.next = endMark then malformed
  else if isBreak cursor.next then
    let (lineBreak, cursor) := cursor.takeBreak
    let (others, cursor) ← quotedBreaks (cursor.rest.length + 1) cursor
    return (foldBreak lineBreak others, cursor)
  else return (blanks, cursor)

def escapeSequence : Reader Text := fun cursor => do
  match escapes.lookup cursor.next, hexEscapes.lookup cursor.next with
  | some c, _ => return ([c], cursor.advance)
  | none, some width =>
      let (code, cursor) ← readHex width cursor.advance
      return ([← characterOf code], cursor)
  | none, none =>
      if isBreak cursor.next then
        let cursor := cursor.takeBreak.2
        quotedBreaks (cursor.rest.length + 1) cursor
      else malformed

def endsQuotedRun (c : Char) : Bool :=
  c == '\'' || c == '"' || c == '\\' || endsToken c

def quotedPiece (mark : Char) : Reader (Option Text) := fun cursor =>
  let c := cursor.next
  if c = mark then
    if mark = '\'' && cursor.peek 1 = '\'' then .ok (some ['\''], cursor.skip 2)
    else .ok (none, cursor.advance)
  else if c = '\\' && mark = '"' then do
    let (text, cursor) ← escapeSequence cursor.advance
    return (some text, cursor)
  else if c = '\'' || c = '"' || c = '\\' then .ok (some [c], cursor.advance)
  else do
    let (blanks, cursor) ← quotedBlanks cursor
    return (some blanks, cursor)

def quotedFrom (mark : Char) : Nat → Reader Text
  | 0, _ => malformed
  | bound + 1, cursor => do
      let (run, cursor) := cursor.takeWhile (!endsQuotedRun ·)
      let (piece, cursor) ← quotedPiece mark cursor
      match piece with
      | none => return (run, cursor)
      | some piece =>
          let (rest, cursor) ← quotedFrom mark bound cursor
          return (run ++ piece ++ rest, cursor)

def quoted : Reader Token := fun cursor => do
  let (text, cursor) ← quotedFrom cursor.next (cursor.rest.length + 1) cursor.advance
  return (.scalar text false, cursor)

def plainRun (inFlow : Bool) : Text → Text
  | [] => []
  | c :: rest =>
      let next := rest.headD endMark
      if endsToken c
          || (c == ':' && (endsToken next || (inFlow && isFlowIndicator next)))
          || (inFlow && (isFlowIndicator c || c == '?'))
      then []
      else c :: plainRun inFlow rest

def plainBreaks : Nat → Cursor → Option Text × Cursor
  | 0, cursor => (none, cursor)
  | bound + 1, cursor =>
      if cursor.seesSeparator then (none, cursor)
      else
        let cursor := cursor.skipSpaces
        if isBreak cursor.next then
          let (lineBreak, cursor) := cursor.takeBreak
          let (rest, cursor) := plainBreaks bound cursor
          (rest.map (lineBreak ++ ·), cursor)
        else (some [], cursor)

/-- Spaces and line breaks after a run of a plain scalar, folded: nothing where the scalar ends
with them. The last component tells whether a line was left. -/
def plainBlanks (cursor : Cursor) : Text × Cursor × Bool :=
  let (spaces, cursor) := cursor.takeWhile (· == ' ')
  if isBreak cursor.next then
    let (lineBreak, cursor) := cursor.takeBreak
    let (others, cursor) := plainBreaks (cursor.rest.length + 1) cursor
    ((others.map (foldBreak lineBreak)).getD [], cursor, true)
  else (spaces, cursor, false)

def plainFrom (inFlow : Bool) (indent : Nat) :
    Nat → Text → Bool → Cursor → Text × Bool × Cursor
  | 0, _, left, cursor => ([], left, cursor)
  | bound + 1, blanks, left, cursor =>
      let run := if cursor.next = '#' then [] else plainRun inFlow cursor.rest
      if run.isEmpty then ([], left, cursor)
      else
        let (spaces, cursor, left) := plainBlanks (cursor.skip run.length)
        if spaces.isEmpty || cursor.next = '#' || (!inFlow && cursor.column < indent) then
          (blanks ++ run, left, cursor)
        else
          let (rest, left, cursor) := plainFrom inFlow indent bound spaces left cursor
          (blanks ++ run ++ rest, left, cursor)

def plain (inFlow : Bool) (indent : Nat) (cursor : Cursor) : Text × Bool × Cursor :=
  plainFrom inFlow indent (cursor.rest.length + 1) [] false cursor

inductive Chomping where
  | strip
  | clip
  | keep
  deriving DecidableEq, Repr

def takeChomping (cursor : Cursor) : Option Chomping × Cursor :=
  if cursor.next = '+' then (some .keep, cursor.advance)
  else if cursor.next = '-' then (some .strip, cursor.advance)
  else (none, cursor)

def takeIncrement : Reader (Option Nat) := fun cursor =>
  let c := cursor.next
  if c = '0' then malformed
  else if c.isDigit then .ok (some (c.toNat - '0'.toNat), cursor.advance)
  else .ok (none, cursor)

def blockHeader : Reader (Chomping × Option Nat) := fun cursor => do
  let (first, cursor) := takeChomping cursor
  let (increment, cursor) ← takeIncrement cursor
  let (second, cursor) :=
    if first.isNone && increment.isSome then takeChomping cursor else (none, cursor)
  require endsWord cursor
  return (((first.or second).getD .clip, increment), cursor)

def blockIndentation : Nat → Nat → Cursor → Text × Nat × Cursor
  | 0, most, cursor => ([], most, cursor)
  | bound + 1, most, cursor =>
      let cursor := cursor.skipSpaces
      let most := max most cursor.column
      if isBreak cursor.next then
        let (lineBreak, cursor) := cursor.takeBreak
        let (rest, most, cursor) := blockIndentation bound most cursor
        (lineBreak ++ rest, most, cursor)
      else ([], most, cursor)

def blockBreaks (indent : Nat) : Nat → Cursor → Text × Cursor
  | 0, cursor => ([], cursor)
  | bound + 1, cursor =>
      let cursor := cursor.skipIndent indent
      if isBreak cursor.next then
        let (lineBreak, cursor) := cursor.takeBreak
        let (rest, cursor) := blockBreaks indent bound cursor
        (lineBreak ++ rest, cursor)
      else ([], cursor)

def startsWithBlank (cursor : Cursor) : Bool :=
  cursor.next == ' ' || cursor.next == '\t'

def chomp (chomping : Chomping) (lineBreak breaks : Text) : Text :=
  match chomping with
  | .strip => []
  | .clip => lineBreak
  | .keep => lineBreak ++ breaks

/-- The lines of a block scalar from column `indent` on. In a folded one a line break between
lines that start with no blank counts as a space, or not at all before blank lines. -/
def blockLines (folded : Bool) (chomping : Chomping) (indent : Nat) :
    Nat → Text → Text → Cursor → Text × Cursor
  | 0, lineBreak, breaks, cursor => (chomp chomping lineBreak breaks, cursor)
  | bound + 1, lineBreak, breaks, cursor =>
      if cursor.column ≠ indent || cursor.next = endMark then
        (chomp chomping lineBreak breaks, cursor)
      else
        let blankLead := startsWithBlank cursor
        let (line, cursor) := cursor.takeWhile (!endsLine ·)
        let (lineBreak', cursor) := cursor.takeBreak
        let (breaks', cursor) := blockBreaks indent (cursor.rest.length + 1) cursor
        let goesOn := cursor.column = indent && cursor.next ≠ endMark
        let joint :=
          if !goesOn then []
          else if folded && lineBreak' = ['\n'] && !blankLead && !startsWithBlank cursor then
            if breaks'.isEmpty then [' '] else []
          else lineBreak'
        let (rest, cursor) := blockLines folded chomping indent bound lineBreak' breaks' cursor
        (breaks ++ line ++ joint ++ rest, cursor)

def blockScalar (least : Nat) : Reader Token := fun cursor => do
  let folded := cursor.next = '>'
  let ((chomping, increment), cursor) ← blockHeader cursor.advance
  let cursor ← restOfLine cursor
  let bound := cursor.rest.length + 1
  let (breaks, indent, cursor) :=
    match increment with
    | none =>
        let (breaks, most, cursor) := blockIndentation bound 0 cursor
        (breaks, max least most, cursor)
    | some n =>
        let indent := least + n - 1
        let (breaks, cursor) := blockBreaks indent bound cursor
        (breaks, indent, cursor)
  let (text, cursor) := blockLines folded chomping indent bound [] breaks cursor
  return (.scalar text false, cursor)

end Lexeme

end DiagnosticRepair.Yaml
