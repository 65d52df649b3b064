import DiagnosticRepair.TestFile
import DiagnosticRepair.Text.Case
import DiagnosticRepair.Text.Word
import DiagnosticRepair.Text.Blank
import DiagnosticRepair.Patch.Stage

namespace DiagnosticRepair

structure Component where
  directory : Path
  source : Path
  name : Text
  defaultExport : Bool

namespace Component

def isWordBreak (c : Char) : Bool :=
  c == '-' || c == '_' || c == '.' || Text.isBlank c

def nameOfDirectory (directory : Text) : Text :=
  let words := (directory.splitOnP isWordBreak).filter (!·.isEmpty)
  if words.isEmpty then "Component" else words.flatMap Text.capitalize

def testPath (component : Component) : Path :=
  component.directory ++ Path.ofText (component.directory.name ++ ".test.tsx")

def isSourceName (name : Text) : Bool :=
  (FileName.stemAndSuffix name).2 = ".tsx".toList && !Text.occursIn "test" name

def chooseSource? (files : List FileName) (name : Text) : Option FileName :=
  let sources := sortBy FileName.le (files.filter (isSourceName ·.text))
  (sources.find? fun file =>
      Text.lower (FileName.stemAndSuffix file.text).1 = Text.lower name).or sources.head?

def sourceText (disk : Disk) (source : Path) : Text :=
  Text.unifyLineEnds ((disk.text? source).getD [])

def exportsDefault (text : Text) : Bool :=
  TestImports.hasDefaultExport text || text.isEmpty

def hasTest (disk : Disk) (directory : Path) (entries : List FileName) : Except AccessError Bool :=
  entries.anyM fun name => do
    return (← disk.isFile (directory.child name)) && TestFile.isTestName name.text

def ofDirectory? (disk : Disk) (directory : Path) (entries : List FileName) :
    Except AccessError (Option Component) := do
  if ← hasTest disk directory entries then return none
  else
    let files ← entries.filterM fun name => disk.isFile (directory.child name)
    let name := nameOfDirectory directory.name
    return (chooseSource? files name).map fun file =>
      let source := directory.child file
      ⟨directory, source, name, exportsDefault (sourceText disk source)⟩

def ofEntry? (disk : Disk) (root : Path) (name : FileName) :
    Except AccessError (Option Component) := do
  let directory := root.child name
  if !(← disk.isDirectory directory) || TestFile.isExcluded name.text then return none
  else ofDirectory? disk directory (disk.namesIn directory)

def untested (disk : Disk) (root : Path) : Except AccessError (List Component) := do
  if ← disk.isDirectory root then
    let answers ← (sortBy FileName.le (disk.namesIn root)).mapM fun name => ofEntry? disk root name
    return answers.filterMap id
  else return []

def importedAs (component : Component) : Text :=
  if component.defaultExport then component.name else "\x7b " ++ component.name ++ " \x7d"

def testText (component : Component) : Text :=
  Text.join ['\n'] [
    "import React from 'react';",
    "import \x7b render, screen \x7d from '@testing-library/react';",
    "import '@testing-library/jest-dom';",
    "import " ++ component.importedAs ++ " from './" ++ component.source.stem ++ "';",
    "",
    "describe('" ++ component.name ++ "', () => \x7b",
    "  it('renders without crashing', () => \x7b",
    "    render(<" ++ component.name ++ " />);",
    "  \x7d);",
    "",
    "  it('matches snapshot', () => \x7b",
    "    const \x7b container \x7d = render(<" ++ component.name ++ " />);",
    "    expect(container.firstChild).toMatchSnapshot();",
    "  \x7d);",
    "\x7d);",
    ""]

end Component

namespace Stage

def generateTest (root : Path) (component : Component) : DiskAction Outcome := do
  let path := component.testPath.below root
  let mutation ← Patch.create root path component.testText ("Generated test for " ++ component.name)
  return mutation.outcome path "generate test"

def generateTests (root componentsRoot : Path) : DiskAction Outcome := do
  let components ← Component.untested (← get) componentsRoot
  if components.isEmpty then return .ofEntry ⟨.info, "No components without tests"⟩
  else each components (generateTest root)

end Stage

end DiagnosticRepair
