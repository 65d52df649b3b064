import DiagnosticRepair.Disk.Basic
import DiagnosticRepair.Disk.Refusal

namespace DiagnosticRepair

inductive AccessError where
  | refused (refusal : Refusal) (path : Path)
  | nulInPath
  deriving DecidableEq

def AccessError.message : AccessError → Text
  | .refused refusal path => refusal.message path.text
  | .nulInPath => "embedded null byte"

def Path.hasNul (path : Path) : Bool :=
  path.steps.any fun step => step.text.contains '\x00'

namespace Disk

def pathLimit : Nat := 4096

variable (disk : Disk)

/-- Takes steps one by one; each starts in a directory. The last one may lead to nothing. -/
def walk (here : Location) : List Step → Except Refusal Location
  | [] => .ok here
  | step :: rest =>
      match disk.find? here with
      | none => .error .notFound
      | some (.file _) => .error .notDirectory
      | some .directory =>
          match step with
          | .up => walk here.dropLast rest
          | .down name =>
              if FileName.limit < (Utf8.encode name.text).length then .error .nameTooLong
              else walk (here ++ [name]) rest

def locate (path : Path) : Except Refusal Location :=
  if pathLimit ≤ (Utf8.encode path.text).length then .error .nameTooLong
  else disk.walk (if path.isAbsolute then [] else disk.here) path.steps

def node (path : Path) : Except Refusal Node := do
  match disk.find? (← disk.locate path) with
  | none => .error .notFound
  | some node => .ok node

def test (p : Node → Bool) (path : Path) : Except AccessError Bool :=
  if path.hasNul then .ok false
  else
    match disk.node path with
    | .ok node => .ok (p node)
    | .error refusal =>
        if refusal.meansAbsent then .ok false else .error (.refused refusal path)

def pathExists (path : Path) : Except AccessError Bool :=
  disk.test (fun _ => true) path

def isDirectory (path : Path) : Except AccessError Bool :=
  disk.test (· = .directory) path

def isFile (path : Path) : Except AccessError Bool :=
  disk.test (· ≠ .directory) path

def read (path : Path) : Except AccessError Bytes :=
  if path.hasNul then .error .nulInPath
  else
    match disk.node path with
    | .ok (.file content) => .ok content
    | .ok .directory => .error (.refused .isDirectory path)
    | .error refusal => .error (.refused refusal path)

def putAt (location : Location) (node : Node) : Disk :=
  match location.getLast? with
  | none => disk
  | some name => disk.put location.dropLast name node

def write (path : Path) (content : Bytes) : Except AccessError Disk :=
  if path.hasNul then .error .nulInPath
  else
    match disk.locate path with
    | .error refusal => .error (.refused refusal path)
    | .ok location =>
        if disk.find? location = some .directory then .error (.refused .isDirectory path)
        else .ok (disk.putAt location (.file content))

def makeDirectory (path : Path) : Except AccessError Disk :=
  if path.hasNul then .error .nulInPath
  else
    match disk.locate path with
    | .error refusal => .error (.refused refusal path)
    | .ok location =>
        if (disk.find? location).isSome then .error (.refused .alreadyExists path)
        else .ok (disk.putAt location .directory)

def unlessDirectory (path : Path) (e : AccessError) : Except AccessError Unit :=
  match e with
  | .nulInPath => .error e
  | .refused .. =>
      match disk.isDirectory path with
      | .ok true => .ok ()
      | .ok false => .error e
      | .error e' => .error e'

/-- Makes the directory that steps, last one first, lead to, and the missing ones above it. The
ones made stay also where the last one is refused. -/
def makeDirectoriesFrom (anchor : Anchor) : List Step → Disk → Except AccessError Unit × Disk
  | steps, disk =>
      let path : Path := ⟨anchor, steps.reverse⟩
      match disk.makeDirectory path with
      | .ok made => (.ok (), made)
      | .error e =>
          match steps, e with
          | _ :: above, .refused .notFound _ =>
              let (result, disk) := makeDirectoriesFrom anchor above disk
              match result with
              | .error e => (.error e, disk)
              | .ok () =>
                  match disk.makeDirectory path with
                  | .ok made => (.ok (), made)
                  | .error (.refused .notFound path) => (.error (.refused .notFound path), disk)
                  | .error e => (disk.unlessDirectory path e, disk)
          | [], .refused .notFound _ => (.error e, disk)
          | _, _ => (disk.unlessDirectory path e, disk)

def makeDirectories (disk : Disk) (path : Path) : Except AccessError Unit × Disk :=
  makeDirectoriesFrom path.anchor path.steps.reverse disk

def namesIn (path : Path) : List FileName :=
  match disk.locate path with
  | .error _ => []
  | .ok location => disk.listing location

def depth : Nat :=
  disk.nodes.foldl (fun n entry => max n entry.1.length) 0

end Disk

end DiagnosticRepair
