import DiagnosticRepair.Diagnostic.Basic
import DiagnosticRepair.Source.ImportBlock
import DiagnosticRepair.Text.Word
import DiagnosticRepair.Conventions

namespace DiagnosticRepair

/-- A text cut around the first import of the testing library: `opening` reaches through the
opening brace and `closing` starts with the closing one. -/
structure LibraryImport where
  before : Text
  opening : Text
  names : Text
  closing : Text
  after : Text
  deriving DecidableEq

namespace LibraryImport

def isQuote (c : Char) : Bool :=
  c == '\'' || c == '"'

def afterSource? (text : Text) : Option Text := do
  match Text.trimStart (← Text.after? "from" text) with
  | [] => none
  | mark :: rest =>
      if isQuote mark then
        match ← Text.after? Conventions.testingLibrary rest with
        | [] => none
        | mark :: rest => if isQuote mark then some rest else none
      else none

def cutSource? : Text → Option (Text × Text)
  | [] => none
  | c :: rest =>
      match afterSource? (c :: rest) with
      | some after => some ((c :: rest).take (rest.length + 1 - after.length), after)
      | none =>
          if c = '\n' then none
          else (cutSource? rest).map fun (clause, after) => (c :: clause, after)

def readNames? (text : Text) : Option (Text × Text × Text) :=
  let names := text.takeWhile (· != closeBrace)
  match text.dropWhile (· != closeBrace) with
  | [] => none
  | brace :: rest =>
      (cutSource? rest).map fun (clause, after) => (names, brace :: clause, after)

def openOnLine? : Text → Option LibraryImport
  | [] => none
  | c :: rest =>
      match if c = openBrace then readNames? rest else none with
      | some (names, closing, after) => some ⟨[], [c], names, closing, after⟩
      | none =>
          if c = '\n' then none
          else (openOnLine? rest).map fun found => { found with opening := c :: found.opening }

def startsType (text : Text) : Bool :=
  match Text.after? "type" text with
  | none => false
  | some rest => !rest.head?.any Text.isWord

/-- Reads an import from its keyword on. After the word `type` it counts only if at least two
blanks go before the word, the last of them being no line break. -/
def read? (text : Text) : Option LibraryImport := do
  let (blanks, rest) ← Text.run? Text.isBlank (← Text.after? "import" text)
  let found ← openOnLine? rest
  if startsType rest && (blanks.length < 2 || blanks.getLast? = some '\n') then none
  else some { found with opening := "import" ++ blanks ++ found.opening }

/-- The first import of the testing library; `joined` tells whether a word character goes before
the text. -/
def findFrom : Bool → Text → Option LibraryImport
  | _, [] => none
  | joined, c :: rest =>
      match if joined then none else read? (c :: rest) with
      | some found => some found
      | none =>
          (findFrom (Text.isWord c) rest).map fun found => { found with before := c :: found.before }

def find? (text : Text) : Option LibraryImport :=
  findFrom false text

def text (found : LibraryImport) : Text :=
  found.before ++ found.opening ++ found.names ++ found.closing ++ found.after

def body (found : LibraryImport) : Text :=
  found.before ++ found.after

def boundNames (item : Text) : List Text :=
  let token := Text.trim item
  if token.isEmpty then []
  else
    let token := Text.trim ((Text.after? "type " token).getD token)
    let parts := Text.splitOn " as " token
    [Text.trim (parts.getLast?.getD []), Text.trim (parts.head?.getD [])]

def bindings (names : Text) : List Text :=
  (Text.splitOn "," names).flatMap boundNames

def widenNames (names symbol : Text) : Text :=
  let kept := Text.trim (Text.dropEndWhile (· == ',') (Text.trim names))
  if kept.isEmpty then symbol else kept ++ ", " ++ symbol

def widen (found : LibraryImport) (symbol : Text) : LibraryImport :=
  { found with names := " " ++ widenNames found.names symbol ++ " " }

def addIfUsed (symbol usage text : Text) : Option Text := do
  let found ← find? text
  if symbol ∈ bindings found.names || !Text.occursIn usage found.body then none
  else some (found.widen symbol).text

end LibraryImport

end DiagnosticRepair
