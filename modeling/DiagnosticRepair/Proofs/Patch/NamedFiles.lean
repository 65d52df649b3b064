import DiagnosticRepair.Proofs.Patch.Edit

namespace DiagnosticRepair.Stage

variable {β : Type} {root : Path} {work : Text × List β → Path → DiskAction Outcome} {label : Text}
  {f : Text × List β → Text → Text} {report : Text × List β → Text → Outcome}
  {disk other : Disk} {groups : Grouped β} {outcomes : List Outcome}

def named (root : Path) (file : Text) : Path :=
  root ++ Path.ofText file

def onGroup (root : Path) (work : Text × List β → Path → DiskAction Outcome)
    (group : Text × List β) : DiskAction Outcome :=
  onNamedFile root group.1 (work group)

/-- The edits of a plan that are meant for a place, applied one after the other to a node. -/
def applied (disk : Disk) (root : Path) (f : Text × List β → Text → Text) (location : Location)
    (groups : Grouped β) (node : Option Node) : Option Node :=
  groups.foldl
    (fun node group =>
      if disk.place? (named root group.1) = some location then node.map (Node.mapText (f group))
      else node)
    node

section

variable (fixes : ∀ group : Text × List β,
  Fixes root (Path.ofText group.1) (work group (Path.ofText group.1)) label (f group) (report group))

include fixes

theorem onGroup_rewritten {group : Text × List β} {outcome : Outcome}
    (h : onGroup root work group disk = (.ok outcome, other)) :
    disk.Rewritten (named root group.1) (f group) other := by
  have stays (unread : disk.text? (named root group.1) = none) :
      disk.Rewritten (named root group.1) (f group) disk :=
    .of_fixed fun text read => by rw [unread] at read; cases read
  rcases onNamedFile_cases (fixes group) disk with
    ⟨_, ran⟩ | ⟨_, unread, ⟨_, ran⟩ | ⟨reason, ran⟩⟩ | ⟨text, after, _, ran, rewritten⟩
  · rw [onGroup, ran] at h
    cases h
  · rw [onGroup, ran] at h
    cases h
    exact stays unread
  · rw [onGroup, ran] at h
    cases h
    exact stays unread
  · rw [onGroup, ran] at h
    cases h
    exact rewritten

theorem trace_sameButTexts (h : Trace (onGroup root work) groups disk outcomes other) :
    disk.SameButTexts other := by
  induction h with
  | nil disk => exact .refl disk
  | cons ran _ ih => exact (onGroup_rewritten fixes ran).sameButTexts.trans ih

theorem find?_of_trace (h : Trace (onGroup root work) groups disk outcomes other)
    (location : Location) :
    other.find? location = applied disk root f location groups (disk.find? location) := by
  induction h with
  | nil => rfl
  | @cons group rest disk middle other outcome outcomes ran _ ih =>
      have rewritten := onGroup_rewritten fixes ran
      have places := rewritten.sameButTexts.place?_eq
      rw [ih, rewritten.node location]
      unfold applied
      simp only [places, List.foldl_cons]

theorem onGroup_returns {group : Text × List β} (short : ¬ disk.TooLong (named root group.1)) :
    ∃ outcome other, onGroup root work group disk = (.ok outcome, other) := by
  rcases onNamedFile_cases (fixes group) disk with
    ⟨long, _⟩ | ⟨_, _, ⟨_, ran⟩ | ⟨reason, ran⟩⟩ | ⟨text, after, _, ran, _⟩
  · exact absurd long short
  · exact ⟨_, _, ran⟩
  · exact ⟨_, _, ran⟩
  · exact ⟨_, _, ran⟩

theorem not_tooLong_of_trace (h : Trace (onGroup root work) groups disk outcomes other) :
    ∀ group ∈ groups, ¬ disk.TooLong (named root group.1) := by
  induction h with
  | nil => simp
  | @cons group rest disk middle other outcome outcomes ran _ ih =>
      have same := (onGroup_rewritten fixes ran).sameButTexts.sameDirectories
      intro chosen member
      rcases List.mem_cons.1 member with rfl | later
      · intro long
        rcases onNamedFile_cases (fixes chosen) disk with
          ⟨_, failed⟩ | ⟨short, _⟩ | ⟨text, after, read, _, _⟩
        · rw [onGroup, failed] at ran
          cases ran
        · exact short long
        · rw [Disk.text?_eq_bind] at read
          obtain ⟨node, found, _⟩ := Option.bind_eq_some_iff.1 read
          exact Disk.not_tooLong_of_nodeAt? found long
      · exact mt same.tooLong_iff.2 (ih chosen later)

theorem exists_trace_iff :
    (∃ outcomes other, Trace (onGroup root work) groups disk outcomes other) ↔
      ∀ group ∈ groups, ¬ disk.TooLong (named root group.1) := by
  constructor
  · rintro ⟨outcomes, other, trace⟩
    exact not_tooLong_of_trace fixes trace
  · intro short
    refine exists_trace disk.SameButTexts ?_ (.refl disk)
    intro group member middle same
    have short' := mt same.sameDirectories.tooLong_iff.1 (short group member)
    obtain ⟨outcome, after, ran⟩ := onGroup_returns fixes short'
    exact ⟨outcome, after, ran, same.trans (onGroup_rewritten fixes ran).sameButTexts⟩

theorem onGroup_of_unreadable {group : Text × List β} {start : Disk}
    (same : start.SameButTexts disk) (unread : start.text? (named root group.1) = none)
    (short : ¬ start.TooLong (named root group.1)) :
    ∃ entry, (entry = ⟨.warning, "Skipping missing file " ++ group.1⟩ ∨
        ∃ reason, entry = failure label (Path.ofText group.1) reason) ∧
      onGroup root work group disk = (.ok (.ofEntry entry), disk) := by
  rcases onNamedFile_cases (fixes group) disk with
    ⟨long, _⟩ | ⟨_, _, ⟨_, ran⟩ | ⟨reason, ran⟩⟩ | ⟨text, after, read, _, _⟩
  · exact absurd (same.sameDirectories.tooLong_iff.1 long) short
  · exact ⟨_, .inl rfl, ran⟩
  · exact ⟨_, .inr ⟨reason, rfl⟩, ran⟩
  · have := same.text?_eq_none_iff.2 unread
    rw [named, read] at this
    cases this

theorem onGroup_outcome {start : Disk} {group : Text × List β} {outcome : Outcome}
    (same : start.SameButTexts disk) (ran : onGroup root work group disk = (.ok outcome, other)) :
    (start.pathExists (named root group.1) = .ok false ∧ outcome = skipMissing group.1) ∨
    (start.text? (named root group.1) = none ∧
      ∃ reason, outcome = .ofEntry (failure label (Path.ofText group.1) reason)) ∨
    ∃ text, disk.text? (named root group.1) = some text ∧ outcome = report group text := by
  rcases onNamedFile_cases (fixes group) disk with
    ⟨_, failed⟩ | ⟨short, unread, ⟨nowhere, skipped⟩ | ⟨reason, failed⟩⟩ |
      ⟨text, after, read, worked, _⟩
  · rw [onGroup, failed] at ran
    cases ran
  · rw [onGroup, skipped] at ran
    cases ran
    left
    have short' := mt same.sameDirectories.tooLong_iff.2 short
    refine ⟨?_, rfl⟩
    rw [named, Disk.pathExists, Disk.test_of_not_tooLong _ short',
      same.nodeAt?_eq_none_iff.1 nowhere]
    rfl
  · rw [onGroup, failed] at ran
    cases ran
    exact .inr (.inl ⟨same.text?_eq_none_iff.1 unread, reason, rfl⟩)
  · rw [onGroup, worked] at ran
    cases ran
    exact .inr (.inr ⟨text, read, rfl⟩)

end

def renameWork (root : Path) (group : Text × List UnusedName) (path : Path) :
    DiskAction Outcome :=
  unusedNamesIn root group.1 group.2 path

def renamedText (group : Text × List UnusedName) (text : Text) : Text :=
  (UnusedNames.rename text group.2).text

def insertWork (root : Path) (group : Text × List Text) (path : Path) : DiskAction Outcome :=
  importsIn root group.2 path

def extendedText (group : Text × List Text) (text : Text) : Text :=
  (ImportBlock.insert text group.2).1

theorem renameWork_fixes (root : Path) (group : Text × List UnusedName) :
    Fixes root (Path.ofText group.1) (renameWork root group (Path.ofText group.1))
      "fix unused variables" (renamedText group)
      (editUnusedNamesReport (Path.ofText group.1) group.1 group.2) :=
  unusedNamesIn_fixes root (Path.ofText group.1) group.1 group.2

theorem insertWork_fixes (root : Path) (group : Text × List Text) :
    Fixes root (Path.ofText group.1) (insertWork root group (Path.ofText group.1)) "fix imports"
      (extendedText group) (editImportsReport (Path.ofText group.1) group.2) :=
  importsIn_fixes root (Path.ofText group.1) group.2

theorem unusedNames_eq_ok_iff {names : List UnusedName} {outcome : Outcome} :
    unusedNames root names disk = (.ok outcome, other) ↔
      ∃ outcomes, Trace (onGroup root (renameWork root)) (Plan.perFile names) disk outcomes other ∧
        outcome = .sum outcomes :=
  each_eq_ok_iff

theorem imports_eq_ok_iff {files : Grouped Text} {outcome : Outcome} :
    imports root files disk = (.ok outcome, other) ↔
      ∃ outcomes, Trace (onGroup root (insertWork root)) files disk outcomes other ∧
        outcome = .sum outcomes :=
  each_eq_ok_iff

theorem sameButTexts_of_unusedNames {names : List UnusedName} {outcome : Outcome}
    (ran : unusedNames root names disk = (.ok outcome, other)) : disk.SameButTexts other := by
  obtain ⟨outcomes, trace, _⟩ := unusedNames_eq_ok_iff.1 ran
  exact trace_sameButTexts (renameWork_fixes root) trace

theorem sameButTexts_of_imports {files : Grouped Text} {outcome : Outcome}
    (ran : imports root files disk = (.ok outcome, other)) : disk.SameButTexts other := by
  obtain ⟨outcomes, trace, _⟩ := imports_eq_ok_iff.1 ran
  exact trace_sameButTexts (insertWork_fixes root) trace

end DiagnosticRepair.Stage
