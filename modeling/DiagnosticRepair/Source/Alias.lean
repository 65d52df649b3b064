import DiagnosticRepair.Path.Lexical
import DiagnosticRepair.Text.Lines
import DiagnosticRepair.Text.Word
import DiagnosticRepair.Text.Blank
import DiagnosticRepair.Conventions

namespace DiagnosticRepair.Alias

def quotedAliasFollows (text : Text) : Bool :=
  match Text.trimStart text with
  | quote :: '@' :: '/' :: _ => quote == '\'' || quote == '"'
  | _ => false

def fromAlias : Bool → Text → Bool
  | _, [] => false
  | joined, c :: rest =>
      (!joined && "from".toList.isPrefixOf (c :: rest)
          && quotedAliasFollows ((c :: rest).drop 4))
        || fromAlias (Text.isWord c) rest

def importsAlias (line : Text) : Bool :=
  let line := Text.trimStart line
  "import".toList.isPrefixOf line && quotedAliasFollows (line.drop 6)

def isAliasImport (line : Text) : Bool :=
  fromAlias false line || importsAlias line

def relativeTarget (here : Location) (testFile : Path) (target : Path) (root : Path) : Text :=
  let start := (root ++ testFile).parent.location here
  let way : Path := ⟨.here, start.wayTo ((root ++ target).location here)⟩
  let text := Text.replaceAll ['\\'] ['/'] way.text
  if text.head? = some '.' then text else '.' :: '/' :: text

structure Resolution where
  line : Text
  changes : List Text

def Resolution.step (relative : Text → Text) (state : Resolution) (entry : Text × Text) :
    Resolution :=
  if Text.occursIn entry.1 state.line then
    ⟨Text.replaceFirst entry.1 (relative entry.2) state.line,
      state.changes ++ ["Fixed import: " ++ entry.1 ++ " -> " ++ relative entry.2]⟩
  else state

def resolveLine (relative : Text → Text) (table : List (Text × Text)) (line : Text) : Resolution :=
  if isAliasImport line then table.foldl (Resolution.step relative) ⟨line, []⟩ else ⟨line, []⟩

def resolve (here : Location) (text : Text) (testFile : Path) (root : Path)
    (table : List (Text × Text)) : Text × List Text :=
  let relative target := relativeTarget here testFile (Path.ofText target) root
  let lines := (LineEnding.lf.split text).map (resolveLine relative table)
  (LineEnding.lf.join (lines.map (·.line)), lines.flatMap (·.changes))

end DiagnosticRepair.Alias
