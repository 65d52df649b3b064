import DiagnosticRepair.Path.Basic

namespace DiagnosticRepair

structure Settings where
  root : Path
  checkerCommand : List Text
  testCommand : List Text
  testRoot : Path
  componentsRoot : Path
  reportLimit : Nat

namespace Settings

def ofRoot (root : Path) : Settings where
  root
  checkerCommand := ["npx", "tsc", "--noEmit", "--pretty", "false"]
  testCommand := ["npm", "run", "test", "--"]
  testRoot := "app"
  componentsRoot := "app/_components"
  reportLimit := 10

def testDirectory (settings : Settings) : Path :=
  settings.root ++ settings.testRoot

def componentsDirectory (settings : Settings) : Path :=
  settings.root ++ settings.componentsRoot

end Settings

end DiagnosticRepair
