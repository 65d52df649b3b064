import DiagnosticRepair.Tool.Words
import DiagnosticRepair.Settings.Basic
import DiagnosticRepair.Disk.Access
import DiagnosticRepair.Text.Blank

namespace DiagnosticRepair

/-- A program that cannot be started is named as `program` or, where that is left open, by the
first word of the command. -/
inductive ToolResult where
  | exited (code : Int) (stdout stderr : Text)
  | undecodable (error : Utf8.DecodeError)
  | notStarted (refusal : Refusal) (program : Option Text)
  deriving DecidableEq

def ToolResult.success : ToolResult :=
  .exited 0 [] []

structure Call where
  words : List Text
  directory : Path
  deriving DecidableEq

inductive CallError where
  | noProgram
  | nulInCall
  | undecodable (error : Utf8.DecodeError)
  deriving DecidableEq

def CallError.message : CallError → Text
  | .noProgram => "list index out of range"
  | .nulInCall => "embedded null byte"
  | .undecodable e => e.message

def Call.hasNul (call : Call) : Bool :=
  call.words.any (·.contains '\x00') || call.directory.hasNul

def Call.error? (call : Call) : Option CallError :=
  if call.words.isEmpty then some .noProgram
  else if call.hasNul then some .nulInCall
  else none

structure ToolRun where
  result : ToolResult
  effect : Disk → Disk

def ToolRun.clean : ToolRun :=
  ⟨.success, id⟩

def ToolResult.answer (words : List Text) : ToolResult → Except CallError (Option Text)
  | .notStarted refusal program =>
      .ok (some (Words.join words ++ ": " ++ refusal.message (program.getD (words.head?.getD []))))
  | .undecodable e => .error (.undecodable e)
  | .exited code stdout stderr =>
      if code = 0 then .ok none
      else
        let combined := Text.join ['\n'] ([stdout, stderr].filter (!·.isEmpty))
        if Text.allBlank combined then
          .ok (some (Words.join words ++ " exited with code " ++ Text.ofInt code))
        else .ok (some combined)

structure TestOptions where
  updateSnapshots : Bool
  passWithNoTests : Bool
  verbose : Bool
  ci : Bool
  deriving DecidableEq, Repr

namespace TestOptions

def standard : TestOptions where
  updateSnapshots := false
  passWithNoTests := true
  verbose := false
  ci := true

def words (options : TestOptions) : List Text :=
  [(options.updateSnapshots, "--updateSnapshot"), (options.passWithNoTests, "--passWithNoTests"),
    (options.verbose, "--verbose"), (options.ci, "--ci")].filterMap
    fun ((wanted, word) : Bool × String) => if wanted then some word.toList else none

end TestOptions

structure World where
  disk : Disk
  script : List ToolRun
  calls : List Call

namespace World

/-- Runs beyond the script find nothing. -/
def start (call : Call) (world : World) : Except CallError (Option Text) × World :=
  let run := world.script.head?.getD .clean
  (run.result.answer call.words,
    ⟨run.effect world.disk, world.script.tail, world.calls ++ [call]⟩)

def call (words : List Text) (directory : Path) (world : World) :
    Except CallError (Option Text) × World :=
  match Call.error? ⟨words, directory⟩ with
  | some e => (.error e, world)
  | none => world.start ⟨words, directory⟩

def check (settings : Settings) : World → Except CallError (Option Text) × World :=
  call settings.checkerCommand settings.root

def test (settings : Settings) (options : TestOptions) :
    World → Except CallError (Option Text) × World :=
  call (settings.testCommand ++ options.words) settings.root

end World

end DiagnosticRepair
