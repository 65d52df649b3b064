import DiagnosticRepair.Settings.Validation
import DiagnosticRepair.Disk.Access

namespace DiagnosticRepair.Settings

def fileName : Text := "tsremedy.yaml"

inductive Rejection (V C : Type) where
  | unreadable (error : AccessError)
  | malformed (message : Text)
  | notMapping
  | invalid (file : Path) (issues : List (Issue V C))

/-- What ends loading: an unusable configuration, or something that no configuration is held
responsible for. -/
inductive LoadError (V C X : Type) where
  | config (error : Rejection V C)
  | access (error : AccessError)
  | undecodable (error : Utf8.DecodeError)
  | other (error : X)
  | fieldNotText

def LoadError.ofReadError {V C X : Type} : ReadError X → LoadError V C X
  | .malformed message => .config (.malformed message)
  | .undecodable e => .undecodable e
  | .other e => .other e

variable {V C X : Type} (library : Library V C X)

def Rejection.message : Rejection V C → Text
  | .unreadable e => "Failed to parse config: " ++ e.message
  | .malformed message => "Failed to parse config: " ++ message
  | .notMapping => "Configuration must be a mapping at the top level."
  | .invalid file issues => "Invalid configuration in " ++ file.text ++ ": " ++ library.report issues

def LoadError.message? (describe : X → Option Text) : LoadError V C X → Option Text
  | .config e => some (e.message library)
  | .access e => some e.message
  | .undecodable e => some e.message
  | .other e => describe e
  | .fieldNotText => none

def readDocument (disk : Disk) (file : Path) : Except (LoadError V C X) V :=
  match disk.read file with
  | .error .nulInPath => .error (.access .nulInPath)
  | .error e => .error (.config (.unreadable e))
  | .ok bytes => (library.read bytes).mapError .ofReadError

def fieldsOf (document : V) : Except (LoadError V C X) (List (V × V)) :=
  if library.isTruthy document then
    match library.entries? document with
    | some entries => .ok entries
    | none => .error (.config .notMapping)
  else .ok []

def isRoot (entry : V × V) : Bool :=
  library.text? entry.1 = some rootField

def splitRoot (entries : List (V × V)) : Option V × List (V × V) :=
  ((entries.find? (isRoot library)).map (·.2), entries.filter (!isRoot library ·))

def resolvePath (disk : Disk) (base path : Path) : Except (LoadError V C X) Path :=
  let path := base ++ path
  if path.hasNul then .error (.access .nulInPath) else .ok (path.normalize disk.here)

def chooseRoot (disk : Disk) (project : Path) : Option V → Except (LoadError V C X) Path
  | none => .ok project
  | some value =>
      if library.isTruthy value then do
        let path := Path.ofText (← (library.display value).mapError .other)
        if path.isAbsolute then return path else resolvePath disk project path
      else .ok project

def ofDocument (disk : Disk) (project file : Path) (document : V) :
    Except (LoadError V C X) Settings := do
  let (named, others) := splitRoot library (← fieldsOf library document)
  let root ← chooseRoot library disk project named
  if others.all (library.isText ·.1) then
    (ofValues library root others).mapError fun issues => .config (.invalid file issues)
  else throw .fieldNotText

def load (disk : Disk) (path : Path) : Except (LoadError V C X) Settings := do
  let project ← resolvePath disk ⟨.here, []⟩ path
  let file := project ++ Path.ofText fileName
  if ← (disk.pathExists file).mapError .access then
    ofDocument library disk project file (← readDocument library disk file)
  else return ofRoot project

end DiagnosticRepair.Settings
