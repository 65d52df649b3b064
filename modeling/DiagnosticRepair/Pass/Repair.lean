import DiagnosticRepair.Pass.Recorder
import DiagnosticRepair.Pass.Report
import DiagnosticRepair.Patch.Stage
import DiagnosticRepair.TestFile
import DiagnosticRepair.Component

namespace DiagnosticRepair.Pass

def count {α : Type} (items : List α) : Text :=
  Text.ofNat items.length

def logOutput (start output : Text) : Pass Unit :=
  note .info (start ++ " output:\n" ++ Text.trimEnd output)

def recheck (tool : Text) (inFull : Bool) (output : Option Text) : Pass (List Diagnostic) := do
  match output with
  | none =>
      note .success ("All " ++ tool ++ " issues fixed!")
      return []
  | some output =>
      let remaining ← parse output
      note .warning (count remaining ++ " " ++ tool
        ++ " diagnostic(s) remain (may require manual review)")
      if inFull || remaining.isEmpty then logOutput tool output
      return remaining

def typeTool : Text := "TypeScript"

def testTool : Text := "test"

def cleanReport (tool : Text) (settings : Settings) : Pass Report := do
  return ⟨tool, true, ← journal, [], [], none, settings.reportLimit⟩

def conclude (tool : Text) (inFull : Bool) (announcement tally : Text) (settings : Settings)
    (rerun : World → Except CallError (Option Text) × World) (diagnostics : List Diagnostic) :
    Pass Report := do
  note .info announcement
  let output ← ask rerun
  let remaining ← recheck tool inFull output
  note .info (tally ++ count (← journal).touched)
  return ⟨tool, false, ← journal, diagnostics, remaining, output, settings.reportLimit⟩

def noteFound (diagnostics : List Diagnostic) (output : Text) : Pass Unit := do
  note .info ("Found " ++ count diagnostics ++ " TypeScript errors")
  if diagnostics.isEmpty then logOutput "Unparsed TypeScript" output

/-- Renames come first, since they keep line numbers and inserted imports do not. -/
def fixTypes (settings : Settings) (diagnostics : List Diagnostic) : Pass Unit := do
  note .info "Fixing unused variables..."
  keep (← onDisk (Stage.unusedNames settings.root (Plan.unusedNames diagnostics)))
  note .info "Fixing missing imports..."
  keep (← onDisk (Stage.imports settings.root (Plan.imports diagnostics)))
  note .info "Checking remaining diagnostics..."
  keep (Plan.review diagnostics)

def typecheck (settings : Settings) : Pass Report := do
  note .info "Running TypeScript auto-fixer..."
  match ← ask (World.check settings) with
  | none =>
      note .success "No TypeScript errors found!"
      cleanReport typeTool settings
  | some output =>
      let diagnostics ← parse output
      noteFound diagnostics output
      fixTypes settings diagnostics
      conclude typeTool false "Verifying fixes..." "Fixed files: " settings (World.check settings)
        diagnostics

def fixTests (settings : Settings) (testFiles : List Path) : Pass Unit := do
  note .info "Fixing import paths..."
  keep (← onDisk (Stage.aliases settings.root testFiles))
  note .info "Fixing common test patterns..."
  keep (← onDisk (Stage.testImports settings.root testFiles))
  note .info "Generating missing tests..."
  keep (← onDisk (Stage.generateTests settings.root settings.componentsDirectory))

def tests (settings : Settings) : Pass Report := do
  note .info "Running test auto-fixer..."
  let testFiles ← look (TestFile.find · settings.testDirectory settings.root)
  note .info ("Found " ++ count testFiles ++ " test files")
  note .snapshot "Updating Jest snapshots..."
  match ← ask (World.test settings { TestOptions.standard with updateSnapshots := true }) with
  | none =>
      note .success "All tests are passing!"
      cleanReport testTool settings
  | some output =>
      note .error "Failed to update snapshots"
      let diagnostics ← parse output
      fixTests settings testFiles
      conclude testTool true "Running final test verification..." "Fixed/created files: " settings
        (World.test settings TestOptions.standard) diagnostics

end DiagnosticRepair.Pass
