import DiagnosticRepair.Log.Journal
import DiagnosticRepair.Tool.Invocation
import DiagnosticRepair.Patch.Mutation
import DiagnosticRepair.Diagnostic.Basic

namespace DiagnosticRepair

structure Recorder where
  listening : Bool
  journal : Journal
  emitted : List Entry

namespace Recorder

def start (listening : Bool) : Recorder :=
  ⟨listening, .empty, []⟩

def keep (recorder : Recorder) (outcome : Outcome) : Recorder :=
  { recorder with
    journal := recorder.journal.extend outcome
    emitted := if recorder.listening then recorder.emitted ++ outcome.entries else recorder.emitted }

def isComplete (recorder : Recorder) : Bool :=
  recorder.listening && recorder.emitted = recorder.journal.entries

end Recorder

inductive Fault where
  | access (error : AccessError)
  | digits (error : TooManyDigits)
  | call (error : CallError)
  deriving DecidableEq

def Fault.message : Fault → Text
  | .access e => e.message
  | .digits e => e.message
  | .call e => e.message

/-- A pass loses its log when it ends early, but not what it did to the world. -/
abbrev Pass := StateT Recorder (ExceptT Fault (StateM World))

namespace Pass

def keep (outcome : Outcome) : Pass Unit :=
  modify (·.keep outcome)

def note (category : Category) (message : Text) : Pass Unit :=
  keep (.ofEntry ⟨category, message⟩)

def journal : Pass Journal :=
  return (← get).journal

def ask (answer : World → Except CallError (Option Text) × World) : Pass (Option Text) := do
  let (result, world) := answer (← getThe World)
  set world
  match result with
  | .ok output => return output
  | .error e => throw (.call e)

def onDisk {α : Type} (action : DiskAction α) : Pass α := do
  let world ← getThe World
  let (result, disk) := action world.disk
  set { world with disk }
  match result with
  | .ok value => return value
  | .error e => throw (.access e)

def look {α : Type} (question : Disk → Except AccessError α) : Pass α :=
  onDisk fun disk => (question disk, disk)

def parse (output : Text) : Pass (List Diagnostic) :=
  match Diagnostic.parse output with
  | .ok diagnostics => return diagnostics
  | .error e => throw (.digits e)

def perform {α : Type} (pass : Pass α) (listening : Bool) (world : World) :
    Except Fault (α × Recorder) × World :=
  pass (.start listening) world

end Pass

end DiagnosticRepair
