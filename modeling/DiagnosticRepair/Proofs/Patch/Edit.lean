import DiagnosticRepair.Proofs.Patch.Run
import DiagnosticRepair.Proofs.Disk.Change

namespace DiagnosticRepair

namespace Disk

variable {disk : Disk} {path : Path}

theorem read_ne_nulInPath (noNul : path.hasNul = false) : disk.read path ≠ .error .nulInPath := by
  unfold read
  rw [noNul]
  cases disk.node path with
  | error refusal => simp
  | ok node => cases node <;> simp

end Disk

def Mutation.ofEdit (edit : Patch.Edit) (text : Text) : Mutation :=
  if (edit text).1 = text then .unchanged else .changed (edit text).2

theorem Mutation.mem_touched_ofEdit {edit : Patch.Edit} {text label : Text} {path touched : Path} :
    touched ∈ ((ofEdit edit text).outcome path label).touched ↔
      touched = path ∧ (edit text).1 ≠ text := by
  unfold ofEdit
  split
  · rename_i same
    exact iff_of_false List.not_mem_nil fun changed => changed.2 same
  · rename_i changed
    exact List.mem_singleton.trans (and_iff_left changed).symm

namespace Patch

variable {disk other : Disk} {root path : Path} {edit : Edit} {text : Text} {f : Text → Text}
  {outcome : Outcome}

structure Mends (disk : Disk) (root path : Path) (f : Text → Text) (outcome : Outcome)
    (other : Disk) : Prop where
  rewritten : disk.Rewritten (root ++ path) f other
  touched : ∀ {touched : Path}, touched ∈ outcome.touched ↔
    touched = path ∧ ∃ text, disk.text? (root ++ path) = some text ∧ f text ≠ text

theorem Mends.of_unreadable (unread : disk.text? (root ++ path) = none)
    (silent : outcome.touched = []) : Mends disk root path f outcome disk := by
  refine ⟨.of_fixed fun text read => ?_, fun {touched} => ?_⟩
  · rw [unread] at read
    cases read
  · rw [silent]
    refine iff_of_false List.not_mem_nil ?_
    rintro ⟨_, text, read, _⟩
    rw [unread] at read
    cases read

theorem Mends.of_readable (read : disk.text? (root ++ path) = some text)
    (rewritten : disk.Rewritten (root ++ path) f other)
    (reports : ∀ touched, touched ∈ outcome.touched ↔ touched = path ∧ f text ≠ text) :
    Mends disk root path f outcome other :=
  ⟨rewritten, by simp only [reports, read, Option.some.injEq, exists_eq_left', implies_true]⟩

theorem edit_of_unreadable (edit : Edit) (noNul : (root ++ path).hasNul = false)
    (unread : disk.text? (root ++ path) = none) :
    ∃ reason, Patch.edit root path edit disk = (.ok (.failed reason), disk) := by
  unfold Patch.edit editMeanwhile
  unfold Disk.text? at unread
  cases read : disk.read (root ++ path) with
  | error e =>
      cases e with
      | nulInPath => exact absurd read (Disk.read_ne_nulInPath noNul)
      | refused refusal place => exact ⟨_, rfl⟩
  | ok bytes =>
      rw [read] at unread
      cases decoded : Utf8.decode bytes with
      | error e => exact ⟨e.message, by simp [decoded]⟩
      | ok text => simp [decoded, Except.toOption] at unread

theorem edit_of_readable (edit : Edit) (read : disk.text? (root ++ path) = some text) :
    ∃ other, Patch.edit root path edit disk = (.ok (.ofEdit edit text), other) ∧
      disk.Rewritten (root ++ path) (fun text => (edit text).1) other := by
  have found : disk.nodeAt? (root ++ path) = some (.file (Utf8.encode text)) := by
    rw [Disk.text?_eq_bind] at read
    obtain ⟨node, found, readable⟩ := Option.bind_eq_some_iff.1 read
    rw [found, Node.text?_eq_some_iff.1 readable]
  have run : Patch.edit root path edit disk = replaceText (root ++ path) text (edit text) disk := by
    simp [Patch.edit, editMeanwhile, Disk.read_eq_ok_iff.2 found, Utf8.decode_encode]
  rw [run]
  unfold replaceText Mutation.ofEdit
  by_cases same : (edit text).1 = text
  · rw [if_pos same, if_pos same]
    refine ⟨disk, rfl, Disk.Rewritten.of_fixed fun other readOther => ?_⟩
    rw [read] at readOther
    obtain rfl := Option.some.inj readOther
    exact same
  · rw [if_neg same, if_neg same]
    obtain ⟨written, wrote, here, locations, finds⟩ := Disk.write_of_file found (Utf8.encode (edit text).1)
    refine ⟨written, by simp [wrote], here, locations, fun location => ?_⟩
    rw [finds location]
    split
    · rename_i leads
      have there : disk.find? location = some (.file (Utf8.encode text)) := by
        rwa [Disk.nodeAt?, leads] at found
      rw [there, Option.map_some, Node.mapText_file_encode]
    · rfl

theorem edit_mends (edit : Edit) (label : Text) (noNul : (root ++ path).hasNul = false) (disk : Disk) :
    ∃ mutation other, Patch.edit root path edit disk = (.ok mutation, other) ∧
      Mends disk root path (fun text => (edit text).1) (mutation.outcome path label) other := by
  cases read : disk.text? (root ++ path) with
  | none =>
      obtain ⟨reason, ran⟩ := edit_of_unreadable edit noNul read
      exact ⟨_, disk, ran, .of_unreadable read rfl⟩
  | some text =>
      obtain ⟨other, ran, rewritten⟩ := edit_of_readable edit read
      exact ⟨_, other, ran, .of_readable read rewritten fun _ => Mutation.mem_touched_ofEdit⟩

end Patch

namespace Stage

def failure (label : Text) (path : Path) (reason : Text) : Entry :=
  ⟨.error, "Failed to " ++ label ++ " in " ++ path.text ++ ": " ++ reason⟩

/-- Work on one file: where the file can be read its text is changed by `f` and a report is made
on it, and where it cannot be read it is left alone and reported. -/
structure Fixes (root path : Path) (work : DiskAction Outcome) (label : Text) (f : Text → Text)
    (report : Text → Outcome) : Prop where
  readable : ∀ {disk text}, disk.text? (root ++ path) = some text →
    ∃ other, work disk = (.ok (report text), other) ∧ disk.Rewritten (root ++ path) f other
  unreadable : ∀ {disk}, (root ++ path).hasNul = false → disk.text? (root ++ path) = none →
    ∃ reason, work disk = (.ok (.ofEntry (failure label path reason)), disk)

def editImportsReport (path : Path) (statements : List Text) (text : Text) : Outcome :=
  (Mutation.ofEdit (editImports statements) text).outcome path "fix imports"

theorem importsIn_fixes (root path : Path) (statements : List Text) :
    Fixes root path (importsIn root statements path) "fix imports"
      (fun text => (ImportBlock.insert text statements).1) (editImportsReport path statements) where
  readable := by
    intro disk text read
    obtain ⟨other, ran, rewritten⟩ := Patch.edit_of_readable (editImports statements) read
    exact ⟨other, DiskAction.bind_of_ok ran, rewritten⟩
  unreadable := by
    intro disk noNul unread
    obtain ⟨reason, ran⟩ := Patch.edit_of_unreadable (editImports statements) noNul unread
    exact ⟨reason, DiskAction.bind_of_ok ran⟩

def editUnusedNamesReport (path : Path) (file : Text) (names : List UnusedName) (text : Text) :
    Outcome :=
  (Mutation.ofEdit (editUnusedNames names) text).outcome path "fix unused variables"
    + missedNames file (UnusedNames.rename text names).missed

theorem unusedNamesIn_fixes (root path : Path) (file : Text) (names : List UnusedName) :
    Fixes root path (unusedNamesIn root file names path) "fix unused variables"
      (fun text => (UnusedNames.rename text names).text)
      (editUnusedNamesReport path file names) where
  readable := by
    intro disk text read
    obtain ⟨other, ran, rewritten⟩ := Patch.edit_of_readable (editUnusedNames names) read
    refine ⟨other, ?_, rewritten⟩
    rw [unusedNamesIn, DiskAction.bind_of_ok (DiskAction.get_run disk), DiskAction.bind_of_ok ran, read]
    rfl
  unreadable := by
    intro disk noNul unread
    obtain ⟨reason, ran⟩ := Patch.edit_of_unreadable (editUnusedNames names) noNul unread
    refine ⟨reason, ?_⟩
    rw [unusedNamesIn, DiskAction.bind_of_ok (DiskAction.get_run disk), DiskAction.bind_of_ok ran, unread]
    rfl

theorem onNamedFile_cases {root : Path} {file label : Text} {work : Path → DiskAction Outcome}
    {f : Text → Text} {report : Text → Outcome}
    (fixes : Fixes root (Path.ofText file) (work (Path.ofText file)) label f report) (disk : Disk) :
    (disk.TooLong (root ++ Path.ofText file) ∧ onNamedFile root file work disk =
      (.error (.refused .nameTooLong (root ++ Path.ofText file)), disk)) ∨
    (¬ disk.TooLong (root ++ Path.ofText file) ∧ disk.text? (root ++ Path.ofText file) = none ∧
      ((disk.nodeAt? (root ++ Path.ofText file) = none ∧
        onNamedFile root file work disk = (.ok (skipMissing file), disk)) ∨
      ∃ reason, onNamedFile root file work disk =
        (.ok (.ofEntry (failure label (Path.ofText file) reason)), disk))) ∨
    (∃ text other, disk.text? (root ++ Path.ofText file) = some text ∧
      onNamedFile root file work disk = (.ok (report text), other) ∧
      disk.Rewritten (root ++ Path.ofText file) f other) := by
  by_cases long : disk.TooLong (root ++ Path.ofText file)
  · refine .inl ⟨long, ?_⟩
    rw [onNamedFile, DiskAction.bind_of_ok (DiskAction.get_run disk)]
    exact DiskAction.bind_of_error (by
      rw [DiskAction.lift_run, Disk.pathExists, Disk.test_of_tooLong _ long])
  · right
    have asked := Disk.test_of_not_tooLong (fun _ => true) long
    have run : onNamedFile root file work disk =
        if (disk.nodeAt? (root ++ Path.ofText file)).isSome then work (Path.ofText file) disk
        else (.ok (skipMissing file), disk) := by
      rw [onNamedFile, DiskAction.bind_of_ok (DiskAction.get_run disk),
        DiskAction.bind_of_ok (by rw [DiskAction.lift_run, Disk.pathExists, asked])]
      cases disk.nodeAt? (root ++ Path.ofText file) <;> rfl
    rw [run]
    cases found : disk.nodeAt? (root ++ Path.ofText file) with
    | none =>
        refine .inl ⟨long, ?_, .inl ⟨rfl, rfl⟩⟩
        rw [Disk.text?_eq_bind, found]
        rfl
    | some node =>
        cases read : disk.text? (root ++ Path.ofText file) with
        | none =>
            obtain ⟨reason, ran⟩ := fixes.unreadable (Disk.noNul_of_nodeAt? found) read
            exact .inl ⟨long, rfl, .inr ⟨reason, ran⟩⟩
        | some text =>
            obtain ⟨other, ran, rewritten⟩ := fixes.readable read
            exact .inr ⟨text, other, rfl, ran, rewritten⟩

end Stage

end DiagnosticRepair
