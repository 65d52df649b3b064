import DiagnosticRepair.Disk.Access

namespace DiagnosticRepair.Disk

def clear (disk : Disk) (location : Location) : Disk :=
  if disk.find? location = some .directory then disk
  else (disk.remove location).putAt location .directory

def clearAbove (disk : Disk) (location : Location) : Disk :=
  (List.range location.length).foldl (fun disk n => disk.clear (location.take n)) disk

def install (disk : Disk) (location : Location) (node : Node) : Disk :=
  let disk := disk.clearAbove location
  match node with
  | .directory => disk.clear location
  | .file _ => (disk.remove location).putAt location node

def files (disk : Disk) : List (Location × Bytes) :=
  disk.nodes.filterMap fun (location, node) =>
    match node with
    | .file content => some (location, content)
    | .directory => none

def filesNotIn (disk other : Disk) : List (Location × Bytes) :=
  disk.files.filter fun (location, content) => other.find? location ≠ some (.file content)

def filesGone (disk other : Disk) : List Location :=
  (disk.files.filter fun (location, _) =>
    match other.find? location with
    | some (.file _) => false
    | _ => true).map (·.1)

end DiagnosticRepair.Disk
