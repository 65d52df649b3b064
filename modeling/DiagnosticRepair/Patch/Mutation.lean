import DiagnosticRepair.Disk.Access
import DiagnosticRepair.Log.Outcome

namespace DiagnosticRepair

inductive Mutation where
  | unchanged
  | changed (changes : List Text)
  | failed (reason : Text)
  deriving DecidableEq

/-- Work on a disk that an unusable path can end; what was written before stays. -/
abbrev DiskAction := ExceptT AccessError (StateM Disk)

namespace Mutation

def isOk : Mutation → Bool
  | failed _ => false
  | _ => true

def isChanged : Mutation → Bool
  | changed _ => true
  | _ => false

def outcome (path : Path) (label : Text) : Mutation → Outcome
  | unchanged => .empty
  | changed changes =>
      ⟨[path], changes.map fun change => ⟨.success, change ++ " (" ++ path.text ++ ")"⟩⟩
  | failed reason =>
      .ofEntry ⟨.error, "Failed to " ++ label ++ " in " ++ path.text ++ ": " ++ reason⟩

def ofAccessError : AccessError → Except AccessError Mutation
  | .nulInPath => .error .nulInPath
  | .refused refusal path => .ok (failed (refusal.message path.text))

end Mutation

namespace Disk

def text? (disk : Disk) (path : Path) : Option Text :=
  match disk.read path with
  | .error _ => none
  | .ok bytes => (Utf8.decode bytes).toOption

end Disk

namespace Patch

abbrev Edit := Text → Text × List Text

def replaceText (target : Path) (before : Text) (after : Text × List Text) :
    DiskAction Mutation := fun disk =>
  if after.1 = before then (.ok .unchanged, disk)
  else
    match disk.write target (Utf8.encode after.1) with
    | .ok disk => (.ok (.changed after.2), disk)
    | .error e => (Mutation.ofAccessError e, disk)

/-- Reads, edits and writes one file; relative paths start at `root`. `meanwhile` happens to the
disk between reading and writing. -/
def editMeanwhile (meanwhile : Disk → Disk) (root path : Path) (edit : Edit) :
    DiskAction Mutation := fun disk =>
  match disk.read (root ++ path) with
  | .error e => (Mutation.ofAccessError e, disk)
  | .ok bytes =>
      match Utf8.decode bytes with
      | .error e => (.ok (.failed e.message), disk)
      | .ok before => replaceText (root ++ path) before (edit before) (meanwhile disk)

def edit (root path : Path) (edit : Edit) : DiskAction Mutation :=
  editMeanwhile id root path edit

def create (root path : Path) (content description : Text) : DiskAction Mutation := fun disk =>
  let target := root ++ path
  match disk.pathExists target with
  | .error e => (.error e, disk)
  | .ok true => (.ok .unchanged, disk)
  | .ok false =>
      match disk.makeDirectories target.parent with
      | (.error e, disk) => (Mutation.ofAccessError e, disk)
      | (.ok (), disk) =>
          match disk.write target (Utf8.encode content) with
          | .ok disk => (.ok (.changed [description]), disk)
          | .error e => (Mutation.ofAccessError e, disk)

end Patch

end DiagnosticRepair
