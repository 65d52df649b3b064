import DiagnosticRepair.Proofs.Patch.NamedFiles
import DiagnosticRepair.Proofs.Diagnostic.Grouping

namespace DiagnosticRepair.Stage

inductive Reports (label file : Text) : Entry → Prop where
  | missing : Reports label file ⟨.warning, "Skipping missing file " ++ file⟩
  | failed : ∀ reason : Text, Reports label file (failure label (Path.ofText file) reason)

def OneLineMore (about : Entry → Prop) (outcome rest : Outcome) : Prop :=
  outcome.touched = rest.touched ∧ ∃ before entry after, about entry ∧
    rest.entries = before ++ after ∧ outcome.entries = before ++ entry :: after

def Returns (action : DiskAction Outcome) (disk : Disk) : Prop :=
  ∃ outcome other, action disk = (.ok outcome, other)

theorem returns_of_isSome {action : DiskAction Outcome} {disk : Disk}
    (h : (action disk).1.toOption.isSome = true) : Returns action disk := by
  rcases ran : action disk with ⟨e | outcome, other⟩
  · rw [ran] at h
    cases h
  · exact ⟨outcome, other, ran⟩

/-- Work with a file in the plan against work without it: the file matters to the others only by
the length of its path, and leaves one line in the log. -/
structure Isolates (disk : Disk) (target : Path) (about : Entry → Prop)
    (all others : DiskAction Outcome) : Prop where
  returns : Returns all disk ↔ ¬ disk.TooLong target ∧ Returns others disk
  agrees : ∀ {outcome other}, all disk = (.ok outcome, other) →
    ∃ rest, others disk = (.ok rest, other) ∧ OneLineMore about outcome rest ∧
      other.nodeAt? target = disk.nodeAt? target

section

variable {β : Type} {root : Path} {work : Text × List β → Path → DiskAction Outcome} {label : Text}
  {f : Text × List β → Text → Text} {report : Text × List β → Text → Outcome}
  {disk other : Disk} {before after : Grouped β} {group : Text × List β} {outcomes : List Outcome}

theorem each_returns_iff
    (fixes : ∀ group : Text × List β, Fixes root (Path.ofText group.1)
      (work group (Path.ofText group.1)) label (f group) (report group)) (groups : Grouped β) :
    Returns (each groups (onGroup root work)) disk ↔
      ∀ group ∈ groups, ¬ disk.TooLong (named root group.1) := by
  rw [← exists_trace_iff fixes]
  constructor
  · rintro ⟨outcome, other, ran⟩
    obtain ⟨outcomes, trace, _⟩ := each_eq_ok_iff.1 ran
    exact ⟨outcomes, other, trace⟩
  · rintro ⟨outcomes, other, trace⟩
    exact ⟨.sum outcomes, other, each_of_trace trace⟩

theorem trace_without_refused
    (fixes : ∀ group : Text × List β, Fixes root (Path.ofText group.1)
      (work group (Path.ofText group.1)) label (f group) (report group))
    (refused : disk.text? (named root group.1) = none)
    (h : Trace (onGroup root work) (before ++ group :: after) disk outcomes other) :
    ∃ first entry second, outcomes = first ++ .ofEntry entry :: second ∧
      Reports label group.1 entry ∧
      Trace (onGroup root work) (before ++ after) disk (first ++ second) other := by
  have short := not_tooLong_of_trace fixes h group (by simp)
  obtain ⟨first, middle, second, rfl, early, late⟩ := h.exists_of_append
  have same := trace_sameButTexts fixes early
  obtain ⟨entry, about, skipped⟩ := onGroup_of_unreadable fixes same refused short
  cases late with
  | cons ran rest =>
      rw [skipped] at ran
      cases ran
      refine ⟨first, entry, _, rfl, ?_, early.append rest⟩
      rcases about with rfl | ⟨reason, rfl⟩
      · exact .missing
      · exact .failed reason

theorem isolates_refused
    (fixes : ∀ group : Text × List β, Fixes root (Path.ofText group.1)
      (work group (Path.ofText group.1)) label (f group) (report group))
    (group : Text × List β) (refused : disk.text? (named root group.1) = none) :
    Isolates disk (named root group.1) (Reports label group.1)
      (each (before ++ group :: after) (onGroup root work))
      (each (before ++ after) (onGroup root work)) where
  returns := by
    rw [each_returns_iff fixes, each_returns_iff fixes]
    simp only [List.mem_append, List.mem_cons]
    constructor
    · intro short
      exact ⟨short group (.inr (.inl rfl)), fun group member =>
        short group (member.elim .inl fun late => .inr (.inr late))⟩
    · rintro ⟨short, others⟩ chosen (early | rfl | late)
      · exact others chosen (.inl early)
      · exact short
      · exact others chosen (.inr late)
  agrees := by
    intro outcome other ran
    obtain ⟨outcomes, trace, rfl⟩ := each_eq_ok_iff.1 ran
    obtain ⟨first, entry, second, rfl, about, without⟩ := trace_without_refused fixes refused trace
    refine ⟨_, each_of_trace without, ⟨?_, ?_⟩, ?_⟩
    · exact Outcome.touched_sum_insert first second rfl
    · refine ⟨first.flatMap (·.entries), entry, second.flatMap (·.entries), about, ?_, ?_⟩
      · rw [Outcome.entries_sum, List.flatMap_append]
      · rw [Outcome.entries_sum, List.flatMap_append, List.flatMap_cons]
        rfl
    · exact (trace_sameButTexts fixes trace).nodeAt?_of_text?_none refused

end

variable {root : Path} {disk other : Disk} {names : List UnusedName} {files : Grouped Text}

theorem isolates_in_imports {before after : Grouped Text} {file : Text} {statements : List Text}
    (refused : disk.text? (named root file) = none) :
    Isolates disk (named root file) (Reports "fix imports" file)
      (imports root (before ++ (file, statements) :: after)) (imports root (before ++ after)) :=
  isolates_refused (insertWork_fixes root) (file, statements) refused

theorem isolates_in_unusedNames {file : Text} (planned : ∃ unused ∈ names, unused.file = file)
    (refused : disk.text? (named root file) = none) :
    Isolates disk (named root file) (Reports "fix unused variables" file)
      (unusedNames root names) (unusedNames root (names.filter (·.file ≠ file))) := by
  obtain ⟨⟨key, values⟩, listed, same⟩ := List.mem_map.1 (Plan.mem_keys_perFile.2 planned)
  obtain rfl : key = file := same
  obtain ⟨before, after, split⟩ := List.append_of_mem listed
  have nodup := Plan.nodup_keys_perFile names
  rw [split, Grouped.keys, List.map_append, List.map_cons, List.nodup_append, List.nodup_cons] at nodup
  obtain ⟨_, ⟨not_after, _⟩, disjoint⟩ := nodup
  have kept_before : before.filter (·.1 ≠ key) = before := by
    refine List.filter_eq_self.2 fun group member => decide_eq_true fun same => ?_
    exact disjoint group.1 (List.mem_map.2 ⟨group, member, rfl⟩) key (List.mem_cons_self ..) same
  have kept_after : after.filter (·.1 ≠ key) = after := by
    refine List.filter_eq_self.2 fun group member => decide_eq_true fun same => ?_
    exact not_after (List.mem_map.2 ⟨group, member, same⟩)
  have rest : Plan.perFile (names.filter (·.file ≠ key)) = before ++ after := by
    rw [Plan.perFile_filter, split, List.filter_append, List.filter_cons_of_neg (by simp),
      kept_before, kept_after]
  have all : unusedNames root names =
      each (before ++ (key, values) :: after) (onGroup root (renameWork root)) := by
    rw [← split]
    rfl
  have others : unusedNames root (names.filter (·.file ≠ key)) =
      each (before ++ after) (onGroup root (renameWork root)) := by
    rw [← rest]
    rfl
  rw [all, others]
  exact isolates_refused (renameWork_fixes root) (key, values) refused

theorem imports_returns_iff :
    Returns (imports root files) disk ↔ ∀ group ∈ files, ¬ disk.TooLong (named root group.1) :=
  each_returns_iff (insertWork_fixes root) files

theorem unusedNames_returns_iff :
    Returns (unusedNames root names) disk ↔
      ∀ unused ∈ names, ¬ disk.TooLong (named root unused.file) := by
  have planned : Returns (unusedNames root names) disk ↔ _ :=
    each_returns_iff (renameWork_fixes root) (Plan.perFile names)
  constructor
  · intro returns unused member
    obtain ⟨group, listed, same⟩ := List.mem_map.1 (Plan.mem_keys_perFile.2 ⟨unused, member, rfl⟩)
    exact same ▸ planned.1 returns group listed
  · intro short
    refine planned.2 fun group listed => ?_
    obtain ⟨unused, member, same⟩ := Plan.mem_keys_perFile.1 (List.mem_map.2 ⟨group, listed, rfl⟩)
    exact same ▸ short unused member

end DiagnosticRepair.Stage
