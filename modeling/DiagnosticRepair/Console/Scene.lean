import DiagnosticRepair.Tool.Invocation
import DiagnosticRepair.Disk.Install
import DiagnosticRepair.Number.Numeral
import DiagnosticRepair.Text.Lines
import DiagnosticRepair.Text.Reading

namespace DiagnosticRepair

inductive Section where
  | file (path : Path)
  | tool (code : Int)

namespace Section

def opened? (line : Text) : Option Section :=
  match Text.after? "file: " line with
  | some path => some (.file (Path.ofText path))
  | none =>
      match (Text.after? "tool: " line).map (Numeral.read 10) with
      | some (.ok code) => some (.tool code)
      | _ => none

def addTo (world : World) (part : Section) (content : Text) : World :=
  match part with
  | file path =>
      let location := path.location world.disk.here
      { world with disk := world.disk.install location (.file (Utf8.encode content)) }
  | tool code =>
      { world with script := world.script ++ [⟨.exited code content [], id⟩] }

end Section

namespace Scene

def readLines (world : World) : Option (Section × Text) → List Text → World
  | open?, [] => open?.elim world fun (part, content) => part.addTo world content
  | open?, line :: rest =>
      match Section.opened? line, Text.after? "| " line, open? with
      | some part, _, _ =>
          readLines (open?.elim world fun (part, content) => part.addTo world content)
            (some (part, [])) rest
      | none, some content, some (part, before) =>
          readLines world (some (part, before ++ content ++ ['\n'])) rest
      | none, _, _ => readLines world open? rest

def read (here : Location) (text : Text) : World :=
  readLines ⟨(Disk.empty here).clearAbove here |>.clear here, [], []⟩ none
    (LineEnding.lf.split text)

end Scene

end DiagnosticRepair
