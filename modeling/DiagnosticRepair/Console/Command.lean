import DiagnosticRepair.Console.Screen
import DiagnosticRepair.Pass.Repair
import DiagnosticRepair.Settings.Load

namespace DiagnosticRepair

inductive Command where
  | typecheck
  | tests
  deriving DecidableEq, Repr

namespace Command

def name : Command → Text
  | typecheck => "typecheck"
  | tests => "tests"

def ofName? (name : Text) : Option Command :=
  [typecheck, tests].find? (·.name = name)

def pass : Command → Settings → Pass Report
  | typecheck => Pass.typecheck
  | tests => Pass.tests

inductive Failure (V C X : Type) where
  | load (error : Settings.LoadError V C X)
  | fault (fault : Fault)

variable {V C X α : Type}

def Failure.message? (library : Settings.Library V C X) (describe : X → Option Text) :
    Failure V C X → Option Text
  | .load e => e.message? library describe
  | .fault e => some e.message

def exitCode : Nat := 0

-- What a command does not deal with shows in its exit status.
def status : Except (Failure V C X) α → Nat
  | .ok _ => exitCode
  | .error _ => 1

def reportLines (recorder : Recorder) (report : Report) : List Text :=
  recorder.emitted.map Entry.render ++ [[], report.summary]

/-- Runs a command in the current directory; the lines it shows are lost where it fails. -/
def run (command : Command) (library : Settings.Library V C X) (world : World) :
    Except (Failure V C X) (List Text) × World :=
  match Settings.load library world.disk ⟨.here, []⟩ with
  | .error (.config e) => (.ok [Entry.render ⟨.error, e.message library⟩], world)
  | .error e => (.error (.load e), world)
  | .ok settings =>
      match (command.pass settings).perform true world with
      | (.ok (report, recorder), world) => (.ok (reportLines recorder report), world)
      | (.error fault, world) => (.error (.fault fault), world)

end Command

end DiagnosticRepair
