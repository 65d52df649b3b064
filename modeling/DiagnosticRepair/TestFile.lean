import DiagnosticRepair.Disk.Access

namespace DiagnosticRepair.TestFile

def suffixes : List Text :=
  [".test", ".spec"].flatMap fun (kind : String) =>
    [".ts", ".tsx", ".js", ".jsx"].map fun (extension : String) =>
      kind.toList ++ extension.toList

/-- A single line break may follow the suffix. -/
def isTestName (name : Text) : Bool :=
  let name := if name.getLast? = some '\n' then name.dropLast else name
  suffixes.any (·.isSuffixOf name)

def generatedDirectories : List Text := [
  "node_modules",
  "__snapshots__",
  "coverage",
  ".next"]

def isExcluded (name : Text) : Bool :=
  Text.occursIn "node_modules" name || generatedDirectories.contains name
    || name.head? = some '.'

/-- What is met below a directory, with the way down to it: its entries in order of name, each
directory that is not excluded followed by what is met below it; `bound` is more than the number
of directories on any way. -/
def entriesFrom (disk : Disk) : Nat → Location → List (List FileName × Node)
  | 0, _ => []
  | bound + 1, here =>
      (disk.children here).flatMap fun name =>
        match disk.find? (here ++ [name]) with
        | none => []
        | some node =>
            let below :=
              if node = .directory && !isExcluded name.text then
                (entriesFrom disk bound (here ++ [name])).map fun (way, node) => (name :: way, node)
              else []
            ([name], node) :: below

def isTestEntry : List FileName × Node → Bool
  | (_, .directory) => false
  | (way, .file _) => way.getLast?.any (isTestName ·.text)

/-- The test files below a directory, none if there is no such directory. It is asked of
everything met whether it is a directory, and the first refusal to answer ends the search. -/
def below (disk : Disk) (start : Path) : Except AccessError (List Path) := do
  if ← disk.isDirectory start then
    match disk.locate start with
    | .error _ => return []
    | .ok here =>
        let met := entriesFrom disk (disk.depth + 1) here
        met.forM fun (way, _) => discard (disk.isDirectory (start ++ ⟨.here, way.map .down⟩))
        return (met.filter isTestEntry).map fun (way, _) => start ++ ⟨.here, way.map .down⟩
  else return []

def find (disk : Disk) (start : Path) (root : Option Path) : Except AccessError (List Path) := do
  let found ← below disk start
  return match root with
    | none => found
    | some root => found.map (·.below root)

end DiagnosticRepair.TestFile
