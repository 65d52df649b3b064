import DiagnosticRepair.Source.LibraryImport

namespace DiagnosticRepair.TestImports

def isAsciiLetter (c : Char) : Bool :=
  c.isAlpha

def isTagChar (c : Char) : Bool :=
  Text.isWord c || c == '.'

def afterTagName? : Text → Option Text
  | [] => none
  | c :: rest => if isAsciiLetter c then some (rest.dropWhile isTagChar) else none

def closesTag (text : Text) : Bool :=
  match afterTagName? text with
  | none => false
  | some rest => (Text.trimStart rest).head? = some '>'

def endsEmptyTag : Text → Bool
  | '/' :: '>' :: _ => true
  | c :: rest =>
      Text.isBlank c &&
        let attributes := rest.takeWhile fun c => c != '<' && c != '>'
        attributes.getLast? = some '/' && (rest.drop attributes.length).head? = some '>'
  | [] => false

def isEmptyTag (text : Text) : Bool :=
  match afterTagName? text with
  | none => false
  | some rest => endsEmptyTag rest

def hasMarkup : Text → Bool
  | [] => false
  | '<' :: '/' :: rest => closesTag rest || hasMarkup ('/' :: rest)
  | '<' :: rest => isEmptyTag rest || hasMarkup rest
  | _ :: rest => hasMarkup rest

def someLineStart (p : Text → Bool) : Text → Bool
  | [] => false
  | '\n' :: rest => p rest || someLineStart p rest
  | _ :: rest => someLineStart p rest

def atLineStart (p : Text → Bool) (text : Text) : Bool :=
  p text || someLineStart p text

def afterWord? (word text : Text) : Option Text := do
  let (_, rest) ← Text.run? Text.isBlank (← Text.after? word text)
  some rest

def startsWord (word text : Text) : Bool :=
  match Text.after? word text with
  | none => false
  | some rest => !rest.head?.any Text.isWord

def afterStarAs? (text : Text) : Option Text := do
  afterWord? "as" (← afterWord? "*" text)

def importsReact (text : Text) : Bool :=
  match afterWord? "import" (Text.trimStart text) with
  | none => false
  | some rest => startsWord "React" rest || (afterStarAs? rest).any (startsWord "React")

def exportsDefault (text : Text) : Bool :=
  match afterWord? "export" (Text.trimStart text) with
  | none => false
  | some rest => startsWord "default" rest

def hasReactImport (text : Text) : Bool :=
  atLineStart importsReact text

def hasDefaultExport (text : Text) : Bool :=
  atLineStart exportsDefault text

def directiveCount (lines : List Text) : Nat :=
  (lines.takeWhile ("///".toList.isPrefixOf ·)).length

def insertLine (text : Text) (statement : Text) (index : List Text → Nat) : Text :=
  let ending := LineEnding.ofText text
  let lines := ending.split text
  ending.join (lines.take (index lines) ++ statement :: lines.drop (index lines))

def addReact (text : Text) : Option Text :=
  if !hasMarkup text || hasReactImport text then none
  else some (insertLine text Conventions.reactImport directiveCount)

def usesMatcher (text : Text) : Bool :=
  Conventions.elementMatchers.any (Text.occursIn · text)

def addMatchers (text : Text) : Option Text :=
  if !usesMatcher text || Text.occursIn "jest-dom" text then none
  else some (insertLine text Conventions.matcherImport ImportBlock.endIndex)

structure Check where
  description : Text
  mend : Text → Option Text

def checks : List Check := [
  ⟨"Added screen to testing-library import", LibraryImport.addIfUsed "screen" "screen."⟩,
  ⟨"Added render to testing-library import", LibraryImport.addIfUsed "render" "render("⟩,
  ⟨"Added React import for JSX", addReact⟩,
  ⟨"Added jest-dom import", addMatchers⟩]

def Check.step (state : Text × List Text) (check : Check) : Text × List Text :=
  match check.mend state.1 with
  | none => state
  | some text => (text, state.2 ++ [check.description])

def fix (text : Text) : Text × List Text :=
  checks.foldl Check.step (text, [])

end DiagnosticRepair.TestImports
