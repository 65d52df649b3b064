import DiagnosticRepair.Yaml.Lexeme

namespace DiagnosticRepair.Yaml

/-- A token that turns out to be a key if a colon follows it on its line. -/
structure PossibleKey where
  position : Nat
  required : Bool
  index : Nat
  line : Nat
  column : Nat

def keyLimit : Nat := 1024

/-- The tokens read so far and what the next ones depend on. Column 0 of the outermost block is
deeper than `outside`. -/
structure Layout where
  cursor : Cursor
  flowLevel : Nat
  indent : Int
  outerIndents : List Int
  keyAllowed : Bool
  possibleKeys : List (Nat × PossibleKey)
  tokens : List Token

namespace Layout

def outside : Int := -1

def start (document : Text) : Layout :=
  ⟨Cursor.start document, 0, outside, [], true, [], []⟩

abbrev Stepper := Layout → Except ReadError Layout

def push (token : Token) (layout : Layout) : Layout :=
  { layout with tokens := layout.tokens ++ [token] }

def inFlow (layout : Layout) : Bool :=
  0 < layout.flowLevel

def isStale (cursor : Cursor) (key : PossibleKey) : Bool :=
  key.line ≠ cursor.line || keyLimit < cursor.index - key.index

def dropStaleKeys : Stepper := fun layout =>
  if layout.possibleKeys.any fun (_, key) => isStale layout.cursor key && key.required then
    malformed
  else
    .ok { layout with
      possibleKeys := layout.possibleKeys.filter fun (_, key) => !isStale layout.cursor key }

def forgetKey (layout : Layout) : Layout :=
  { layout with possibleKeys := layout.possibleKeys.filter (·.1 ≠ layout.flowLevel) }

def dropKey : Stepper := fun layout =>
  if (layout.possibleKeys.lookup layout.flowLevel).any (·.required) then malformed
  else .ok layout.forgetKey

def saveKey : Stepper := fun layout => do
  if layout.keyAllowed then
    let cursor := layout.cursor
    let required := !layout.inFlow && layout.indent = cursor.column
    let key : PossibleKey :=
      ⟨layout.tokens.length, required, cursor.index, cursor.line, cursor.column⟩
    let layout ← dropKey layout
    return { layout with possibleKeys := (layout.flowLevel, key) :: layout.possibleKeys }
  else return layout

def unwindFrom (column : Int) : List Int → Layout → Layout
  | [], layout => layout
  | outer :: rest, layout =>
      if column < layout.indent then
        unwindFrom column rest
          ({ layout with indent := outer, outerIndents := rest }.push .blockEnd)
      else layout

def unwind (column : Int) (layout : Layout) : Layout :=
  if layout.inFlow then layout else unwindFrom column layout.outerIndents layout

def openBlock (token : Token) (column position : Nat) (layout : Layout) : Layout :=
  if layout.indent < column then
    { layout with
      indent := column
      outerIndents := layout.indent :: layout.outerIndents
      tokens := layout.tokens.insertIdx position token }
  else layout

def advance (n : Nat) (layout : Layout) : Layout :=
  { layout with cursor := layout.cursor.skip n }

def allowKey (allowed : Bool) (layout : Layout) : Layout :=
  { layout with keyAllowed := allowed }

def skipBlanksFrom : Nat → Layout → Layout
  | 0, layout => layout
  | bound + 1, layout =>
      let cursor := layout.cursor.skipSpaces.skipComment
      let layout := { layout with cursor }
      if isBreak cursor.next then
        skipBlanksFrom bound
          { layout with
            cursor := cursor.takeBreak.2
            keyAllowed := layout.keyAllowed || !layout.inFlow }
      else layout

def skipBlanks (layout : Layout) : Layout :=
  let cursor := layout.cursor
  let cursor := if cursor.index = 0 && cursor.next = '\ufeff' then cursor.advance else cursor
  skipBlanksFrom (cursor.rest.length + 1) { layout with cursor }

def leaveBlocks : Stepper := fun layout => do
  return (← dropKey (layout.unwind outside)).allowKey false

def pushLexeme (read : Reader Token) : Stepper := fun layout => do
  let (token, cursor) ← read layout.cursor
  return { layout with cursor }.push token

def documentMarker (token : Token) : Stepper := fun layout => do
  return ((← leaveBlocks layout).advance 3).push token

def flowStart (token : Token) : Stepper := fun layout => do
  let layout ← saveKey layout
  return ((({ layout with flowLevel := layout.flowLevel + 1 }).allowKey true).advance 1).push token

def flowEnd (token : Token) : Stepper := fun layout => do
  let layout ← dropKey layout
  return ((({ layout with flowLevel := layout.flowLevel - 1 }).allowKey false).advance 1).push token

def flowEntry : Stepper := fun layout => do
  return ((← dropKey (layout.allowKey true)).advance 1).push .flowEntry

def openBlockHere (token : Token) : Stepper := fun layout =>
  if layout.inFlow then .ok layout
  else if layout.keyAllowed then
    .ok (layout.openBlock token layout.cursor.column layout.tokens.length)
  else malformed

def blockEntry : Stepper := fun layout => do
  let layout ← openBlockHere .sequenceStart layout
  return ((← dropKey (layout.allowKey true)).advance 1).push .blockEntry

def complexKey : Stepper := fun layout => do
  let layout ← openBlockHere .mappingStart layout
  return ((← dropKey (layout.allowKey (!layout.inFlow))).advance 1).push .key

def insertKey (key : PossibleKey) (layout : Layout) : Layout :=
  let layout := { layout.forgetKey with tokens := layout.tokens.insertIdx key.position .key }
  let layout :=
    if layout.inFlow then layout else layout.openBlock .mappingStart key.column key.position
  layout.allowKey false

def value : Stepper := fun layout => do
  let layout ←
    match layout.possibleKeys.lookup layout.flowLevel with
    | some key => pure (layout.insertKey key)
    | none => do
        let layout ← openBlockHere .mappingStart layout
        dropKey (layout.allowKey (!layout.inFlow))
  return (layout.advance 1).push .value

def content (read : Reader Token) : Stepper := fun layout => do
  let layout ← saveKey layout
  pushLexeme read (layout.allowKey false)

def named (token : Text → Token) : Reader Token := fun cursor => do
  let (name, cursor) ← Lexeme.anchorName cursor
  return (token name, cursor)

def blockScalar : Stepper := fun layout => do
  let layout ← dropKey (layout.allowKey true)
  pushLexeme (Lexeme.blockScalar (max 1 (layout.indent + 1).toNat)) layout

def plain : Stepper := fun layout => do
  let layout ← saveKey layout
  let (text, left, cursor) := Lexeme.plain layout.inFlow (layout.indent + 1).toNat layout.cursor
  return ({ layout with cursor }.allowKey left).push (.scalar text true)

def isIndicator (c : Char) : Bool :=
  "-?:,[]\x7b\x7d#&*!|>'\"%@`".toList.contains c

def startsPlain (layout : Layout) : Bool :=
  let c := layout.cursor.next
  !(endsToken c || isIndicator c)
    || (!endsToken (layout.cursor.peek 1)
        && (c == '-' || (!layout.inFlow && (c == '?' || c == ':'))))

def isLone (layout : Layout) (eitherWay : Bool) : Bool :=
  eitherWay || endsToken (layout.cursor.peek 1)

def token : Stepper := fun layout =>
  let cursor := layout.cursor
  let atStart := cursor.column = 0
  let c := cursor.next
  if c = '%' && atStart then do
    pushLexeme Lexeme.directive (← leaveBlocks layout)
  else if atStart && cursor.seesMarker Cursor.documentStart then
    documentMarker .documentStart layout
  else if atStart && cursor.seesMarker Cursor.documentEnd then documentMarker .documentEnd layout
  else if c = '[' then flowStart .flowSequenceStart layout
  else if c = '\x7b' then flowStart .flowMappingStart layout
  else if c = ']' then flowEnd .flowSequenceEnd layout
  else if c = '\x7d' then flowEnd .flowMappingEnd layout
  else if c = ',' then flowEntry layout
  else if c = '-' && layout.isLone false then blockEntry layout
  else if c = '?' && layout.isLone layout.inFlow then complexKey layout
  else if c = ':' && layout.isLone layout.inFlow then value layout
  else if c = '*' then content (named .alias) layout
  else if c = '&' then content (named .anchor) layout
  else if c = '!' then content Lexeme.tag layout
  else if (c = '|' || c = '>') && !layout.inFlow then blockScalar layout
  else if c = '\'' || c = '"' then content Lexeme.quoted layout
  else if layout.startsPlain then plain layout
  else malformed

def approach : Stepper := fun layout => do
  let layout ← dropStaleKeys layout.skipBlanks
  return layout.unwind layout.cursor.column

def tokensFrom : Nat → Layout → List Token
  | 0, layout => layout.tokens ++ [.broken .malformed]
  | bound + 1, layout =>
      match approach layout with
      | .error e => layout.tokens ++ [.broken e]
      | .ok layout =>
          if layout.cursor.next = endMark then
            match leaveBlocks layout with
            | .error e => layout.tokens ++ [.broken e]
            | .ok layout => layout.tokens ++ [.documentsEnd]
          else
            match token layout with
            | .error e => layout.tokens ++ [.broken e]
            | .ok layout => tokensFrom bound layout

end Layout

def Token.ofText (document : Text) : List Token :=
  Layout.tokensFrom (document.length + 1) (.start document)

end DiagnosticRepair.Yaml
