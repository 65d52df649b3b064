import DiagnosticRepair.Proofs.Patch.Edit
import DiagnosticRepair.Proofs.Disk.Creation

namespace DiagnosticRepair.Stage

variable {root : Path} {disk : Disk} {testFiles : List Path}

def Harmless (action : DiskAction Outcome) : Prop :=
  ∀ disk, ∃ outcome other, action disk = (.ok outcome, other) ∧ disk.SameButTexts other

theorem harmless_each {α : Type} {items : List α} {work : α → DiskAction Outcome}
    (h : ∀ item ∈ items, Harmless (work item)) : Harmless (each items work) := by
  intro disk
  have traced : ∃ outcomes other, Trace work items disk outcomes other := by
    refine exists_trace disk.SameButTexts ?_ (.refl disk)
    intro item member middle same
    obtain ⟨outcome, other, ran, more⟩ := h item member middle
    exact ⟨outcome, other, ran, same.trans more⟩
  obtain ⟨outcomes, other, trace⟩ := traced
  refine ⟨_, other, each_of_trace trace, trace.keeps disk.SameButTexts ?_ (.refl disk)⟩
  intro item member middle outcome after same ran
  obtain ⟨_, _, ran', more⟩ := h item member middle
  rw [ran] at ran'
  cases ran'
  exact same.trans more

def pathFrom (root file : Path) : Path :=
  if file.isAbsolute then file.below root else file

theorem append_pathFrom (root file : Path) : root ++ pathFrom root file = root ++ file := by
  unfold pathFrom
  split
  · rename_i absolute
    rw [Path.append_below_of_isAbsolute absolute, Path.append_of_isAbsolute root file absolute]
  · rfl

theorem pathFrom_below (root path : Path) : pathFrom root (path.below root) = path.below root := by
  unfold pathFrom
  split
  · rename_i absolute
    exact Path.below_below_of_isAbsolute absolute
  · rfl

def resolvedText (here : Location) (root file : Path) (text : Text) : Text :=
  (Alias.resolve here text (pathFrom root file) root Conventions.aliases).1

def aliasWork (root file : Path) : DiskAction Outcome := do
  let path := pathFrom root file
  let here := (← get).here
  let mutation ← Patch.edit root path (Alias.resolve here · path root Conventions.aliases)
  return mutation.outcome path "fix imports"

def importWork (root file : Path) : DiskAction Outcome := do
  let mutation ← Patch.edit root file TestImports.fix
  return mutation.outcome file "fix patterns"

theorem aliases_eq (root : Path) (testFiles : List Path) :
    aliases root testFiles = each testFiles (aliasWork root) := rfl

theorem testImports_eq (root : Path) (testFiles : List Path) :
    testImports root testFiles = each testFiles (importWork root) := rfl

theorem aliasWork_mends {file : Path} (noNul : (root ++ file).hasNul = false) (disk : Disk) :
    ∃ outcome other, aliasWork root file disk = (.ok outcome, other) ∧
      Patch.Mends disk root (pathFrom root file) (resolvedText disk.here root file) outcome other := by
  rw [← append_pathFrom] at noNul
  obtain ⟨mutation, other, ran, mends⟩ := Patch.edit_mends
    (Alias.resolve disk.here · (pathFrom root file) root Conventions.aliases) "fix imports" noNul disk
  refine ⟨_, other, ?_, mends⟩
  rw [aliasWork, DiskAction.bind_of_ok (DiskAction.get_run disk), DiskAction.bind_of_ok ran]
  rfl

theorem importWork_mends {file : Path} (noNul : (root ++ file).hasNul = false) (disk : Disk) :
    ∃ outcome other, importWork root file disk = (.ok outcome, other) ∧
      Patch.Mends disk root file (fun text => (TestImports.fix text).1) outcome other := by
  obtain ⟨mutation, other, ran, mends⟩ :=
    Patch.edit_mends TestImports.fix "fix patterns" noNul disk
  exact ⟨_, other, DiskAction.bind_of_ok ran, mends⟩

theorem harmless_aliases (usable : ∀ file ∈ testFiles, (root ++ file).hasNul = false) :
    Harmless (aliases root testFiles) := by
  refine harmless_each fun file member disk => ?_
  obtain ⟨outcome, other, ran, mends⟩ := aliasWork_mends (usable file member) disk
  exact ⟨outcome, other, ran, mends.rewritten.sameButTexts⟩

theorem harmless_testImports (usable : ∀ file ∈ testFiles, (root ++ file).hasNul = false) :
    Harmless (testImports root testFiles) := by
  refine harmless_each fun file member disk => ?_
  obtain ⟨outcome, other, ran, mends⟩ := importWork_mends (usable file member) disk
  exact ⟨outcome, other, ran, mends.rewritten.sameButTexts⟩

structure EachMended (root : Path) (files : List Path) (f : Path → Text → Text) (disk other : Disk) :
    Prop where
  same : disk.SameButTexts other
  file : ∀ {file location}, file ∈ files → disk.place? (root ++ file) = some location →
    other.find? location = (disk.find? location).map (Node.mapText (f file))
  kept : ∀ {location}, (∀ file ∈ files, disk.place? (root ++ file) ≠ some location) →
    other.find? location = disk.find? location

def Apart (root : Path) (files : List Path) (disk : Disk) : Prop :=
  files.Pairwise fun first second => disk.place? (root ++ first) ≠ disk.place? (root ++ second)

variable {other third : Disk} {files : List Path} {f g : Path → Text → Text}
  {work : Path → DiskAction Outcome} {outcomes : List Outcome} {outcome : Outcome}

theorem Apart.of_same (apart : Apart root files disk) (same : disk.SameButTexts other) :
    Apart root files other := by
  unfold Apart at *
  simpa only [same.place?_eq] using apart

theorem EachMended.trans (h : EachMended root files f disk other)
    (h' : EachMended root files g other third) :
    EachMended root files (fun file => g file ∘ f file) disk third := by
  refine ⟨h.same.trans h'.same, fun {file location} member leads => ?_, fun {location} none => ?_⟩
  · rw [h'.file member ((h.same.place?_eq _).trans leads), h.file member leads, Option.map_map]
    congr 1
    exact funext fun node => Node.mapText_mapText (f file) (g file) node
  · rw [h'.kept (by simpa only [h.same.place?_eq] using none), h.kept none]

theorem eachMended_of_trace
    (step : ∀ file ∈ files, ∀ {middle outcome after}, disk.SameButTexts middle →
      work file middle = (.ok outcome, after) → middle.Rewritten (root ++ file) (f file) after)
    (apart : Apart root files disk) (h : Trace work files disk outcomes other) :
    EachMended root files f disk other := by
  induction h with
  | nil disk => exact ⟨.refl disk, fun member => (List.not_mem_nil member).elim, fun _ => rfl⟩
  | @cons first rest disk middle other outcome outcomes ran _ ih =>
      have rewritten := step first (List.mem_cons_self ..) (.refl disk) ran
      have same := rewritten.sameButTexts
      have apart_first := (List.pairwise_cons.1 apart).1
      have later := ih (fun file member => fun same' =>
        step file (List.mem_cons_of_mem _ member) (same.trans same'))
        (Apart.of_same (List.pairwise_cons.1 apart).2 same)
      refine ⟨same.trans later.same, fun {file location} member leads => ?_, fun {location} none => ?_⟩
      · rcases List.mem_cons.1 member with rfl | member
        · rw [later.kept, rewritten.node location, if_pos leads]
          intro other_file member leads'
          rw [same.place?_eq] at leads'
          exact apart_first other_file member (leads.trans leads'.symm)
        · have elsewhere : disk.place? (root ++ first) ≠ some location := fun leads' =>
            apart_first file member (leads'.trans leads.symm)
          rw [later.file member ((same.place?_eq _).trans leads), rewritten.node location,
            if_neg elsewhere]
      · obtain ⟨not_first, not_rest⟩ := List.forall_mem_cons.1 none
        rw [later.kept (by simpa only [same.place?_eq] using not_rest), rewritten.node location,
          if_neg not_first]

theorem eachMended_of_aliases (usable : ∀ file ∈ files, (root ++ file).hasNul = false)
    (apart : Apart root files disk) (ran : aliases root files disk = (.ok outcome, other)) :
    EachMended root files (resolvedText disk.here root) disk other := by
  rw [aliases_eq, each_eq_ok_iff] at ran
  obtain ⟨outcomes, trace, rfl⟩ := ran
  refine eachMended_of_trace (fun file member {middle _ _} same ran => ?_) apart trace
  obtain ⟨outcome, after, ran', mends⟩ := aliasWork_mends (usable file member) middle
  cases ran.symm.trans ran'
  have rewritten := mends.rewritten
  rwa [append_pathFrom, same.here] at rewritten

theorem eachMended_of_testImports (usable : ∀ file ∈ files, (root ++ file).hasNul = false)
    (apart : Apart root files disk) (ran : testImports root files disk = (.ok outcome, other)) :
    EachMended root files (fun _ text => (TestImports.fix text).1) disk other := by
  rw [testImports_eq, each_eq_ok_iff] at ran
  obtain ⟨outcomes, trace, rfl⟩ := ran
  refine eachMended_of_trace (fun file member {middle _ _} _ ran => ?_) apart trace
  obtain ⟨outcome, after, ran', mends⟩ := importWork_mends (usable file member) middle
  cases ran.symm.trans ran'
  exact mends.rewritten

end DiagnosticRepair.Stage
