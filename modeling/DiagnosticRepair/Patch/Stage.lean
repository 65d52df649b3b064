import DiagnosticRepair.Patch.Mutation
import DiagnosticRepair.Diagnostic.Plan
import DiagnosticRepair.Source.ImportBlock
import DiagnosticRepair.Source.UnusedNames
import DiagnosticRepair.Source.Alias
import DiagnosticRepair.Source.TestImports

namespace DiagnosticRepair.Stage

def each {α : Type} (items : List α) (work : α → DiskAction Outcome) : DiskAction Outcome := do
  return .sum (← items.mapM work)

def skipMissing (file : Text) : Outcome :=
  .ofEntry ⟨.warning, "Skipping missing file " ++ file⟩

def onNamedFile (root : Path) (file : Text) (work : Path → DiskAction Outcome) :
    DiskAction Outcome := do
  let path := Path.ofText file
  if ← (← get).pathExists (root ++ path) then work path else return skipMissing file

def editImports (statements : List Text) : Patch.Edit := fun text =>
  let (text, inserted) := ImportBlock.insert text statements
  (text, inserted.map ("Added import: " ++ ·))

def importsIn (root : Path) (statements : List Text) (path : Path) : DiskAction Outcome := do
  let mutation ← Patch.edit root path (editImports statements)
  return mutation.outcome path "fix imports"

def imports (root : Path) (files : Grouped Text) : DiskAction Outcome :=
  each files fun (file, statements) => onNamedFile root file (importsIn root statements)

def editUnusedNames (names : List UnusedName) : Patch.Edit := fun text =>
  let result := UnusedNames.rename text names
  (result.text, result.descriptions)

def missedNames (file : Text) (missed : List UnusedName) : Outcome :=
  .ofEntries <| missed.map fun unused =>
    ⟨.warning, "No unused '" ++ unused.name ++ "' found on line " ++ Text.ofInt unused.line
      ++ " of " ++ file⟩

def unusedNamesIn (root : Path) (file : Text) (names : List UnusedName) (path : Path) :
    DiskAction Outcome := do
  let text? := (← get).text? (root ++ path)
  let mutation ← Patch.edit root path (editUnusedNames names)
  let missed := (text?.map fun text => (UnusedNames.rename text names).missed).getD []
  return mutation.outcome path "fix unused variables" + missedNames file missed

def unusedNames (root : Path) (names : List UnusedName) : DiskAction Outcome :=
  each (Plan.perFile names) fun (file, names) =>
    onNamedFile root file (unusedNamesIn root file names)

def aliases (root : Path) (testFiles : List Path) : DiskAction Outcome :=
  each testFiles fun file => do
    let path := if file.isAbsolute then file.below root else file
    let here := (← get).here
    let mutation ← Patch.edit root path (Alias.resolve here · path root Conventions.aliases)
    return mutation.outcome path "fix imports"

def testImports (root : Path) (testFiles : List Path) : DiskAction Outcome :=
  each testFiles fun path => do
    let mutation ← Patch.edit root path TestImports.fix
    return mutation.outcome path "fix patterns"

end DiagnosticRepair.Stage
