import DiagnosticRepair.Proofs.Untested
import DiagnosticRepair.Proofs.Disk.Creation
import DiagnosticRepair.Proofs.Path.Reading
import DiagnosticRepair.Proofs.Patch.Isolation

namespace DiagnosticRepair

namespace Component

def testName (name : FileName) : FileName where
  text := name.text ++ ".test.tsx"
  valid := by
    refine ⟨by simp, ?_, ?_, ?_⟩
    · intro short
      have := congrArg List.length short
      simp at this
    · intro short
      have := congrArg List.length short
      simp at this
    · rw [List.mem_append, not_or]
      exact ⟨name.valid.2.2.2, by decide⟩

theorem testPathIn_child (path : Path) (name : FileName) :
    testPathIn (path.child name) = (path.child name).child (testName name) := by
  have named : (path.child name).name = name.text := by simp [Path.name, Path.child, Step.text]
  have alone : (⟨.here, [.down (testName name)]⟩ : Path).text = name.text ++ ".test.tsx".toList := by
    simp [Path.text, Anchor.text, Text.join_singleton, Step.text, testName]
  rw [testPathIn, named, ← alone, Path.ofText_text]
  rfl

structure Placed (root : Path) (disk : Disk) (component : Component) : Prop where
  named : ∃ parent name, component.directory = Path.child parent name
  inside : disk.nodeAt? component.directory = some .directory
  reached : root ++ component.testPath.below root = component.testPath

variable {disk other : Disk} {component : Component} {components : List Component}
  {root base part : Path}

theorem Placed.of_same (placed : Placed root disk component) (same : disk.SameDirectories other) :
    Placed root other component :=
  ⟨placed.named, same.nodeAt?_eq_directory_iff.2 placed.inside, placed.reached⟩

theorem placed_of_untested (absolute : base.isAbsolute = true)
    (h : untested disk (base ++ part) = .ok components) (member : component ∈ components) :
    Placed root disk component := by
  obtain ⟨name, lacks, same⟩ := (mem_untested_iff h).1 ⟨component, member, rfl⟩
  refine ⟨⟨_, name, same⟩, same ▸ lacks.looked.directory, Path.append_below_of_isAbsolute ?_ root⟩
  rw [testPath_eq, same, testPathIn_child]
  exact Path.isAbsolute_append absolute part

theorem placed_of_untested_below (h : untested disk (root ++ part) = .ok components)
    (member : component ∈ components) : Placed root disk component := by
  obtain ⟨name, lacks, same⟩ := (mem_untested_iff h).1 ⟨component, member, rfl⟩
  refine ⟨⟨_, name, same⟩, same ▸ lacks.looked.directory, ?_⟩
  rw [testPath_eq, same, testPathIn_child, Path.child_append, Path.child_append,
    Path.append_below_append]

end Component

namespace Patch

variable {disk : Disk} {root path directory : Path} {name : FileName}

theorem create_cases (target : root ++ path = directory.child name)
    (inside : disk.nodeAt? directory = some .directory)
    (noNul : name.text.contains '\x00' = false) (content description : Text) :
    (disk.TooLong (directory.child name) ∧ create root path content description disk =
      (.error (.refused .nameTooLong (directory.child name)), disk)) ∨
    ((∃ node, disk.nodeAt? (directory.child name) = some node) ∧
      create root path content description disk = (.ok .unchanged, disk)) ∨
    (disk.nodeAt? (directory.child name) = none ∧ ¬ disk.TooLong (directory.child name) ∧ ∃ written,
      create root path content description disk = (.ok (.changed [description]), written) ∧
      disk.Created (directory.child name) (Utf8.encode content) written) := by
  unfold create
  simp only [target]
  by_cases long : disk.TooLong (directory.child name)
  · left
    have refused : disk.pathExists (directory.child name) = .error _ := Disk.test_of_tooLong _ long
    exact ⟨long, by rw [refused]⟩
  · right
    have asked : disk.pathExists (directory.child name) = .ok _ := Disk.test_of_not_tooLong _ long
    cases found : disk.nodeAt? (directory.child name) with
    | some node =>
        refine .inl ⟨⟨node, rfl⟩, ?_⟩
        rw [asked, found]
        rfl
    | none =>
        obtain ⟨written, wrote, created⟩ :=
          Disk.write_new inside long noNul found (Utf8.encode content)
        have made : disk.makeDirectories (directory.child name).parent = (.ok (), disk) := by
          rw [Path.parent_child]
          exact Disk.makeDirectories_of_directory inside
        refine .inr ⟨rfl, long, written, ?_, created⟩
        rw [asked, found]
        simp only [Option.any_none, made, wrote]

end Patch

namespace Stage

variable {disk other : Disk} {root part : Path} {component : Component}
  {components : List Component} {outcomes : List Outcome}

theorem generateTest_cases (root : Path) (placed : Component.Placed root disk component) :
    (disk.TooLong component.testPath ∧
      ∃ e, generateTest root component disk = (.error e, disk)) ∨
    ((∃ node, disk.nodeAt? component.testPath = some node) ∧
      generateTest root component disk = (.ok .empty, disk)) ∨
    (disk.nodeAt? component.testPath = none ∧ ¬ disk.TooLong component.testPath ∧ ∃ outcome written,
      generateTest root component disk = (.ok outcome, written) ∧
      outcome.touched = [component.testPath.below root] ∧
      disk.Created component.testPath (Utf8.encode component.testText) written) := by
  obtain ⟨parent, name, named⟩ := placed.named
  have testPath : component.testPath = component.directory.child (Component.testName name) := by
    rw [Component.testPath_eq, named, Component.testPathIn_child]
  have target : root ++ component.testPath.below root =
      component.directory.child (Component.testName name) :=
    placed.reached.trans testPath
  have noNul : (Component.testName name).text.contains '\x00' = false := by
    have clean := Disk.noNul_of_nodeAt? placed.inside
    rw [named, Path.hasNul_child, Bool.or_eq_false_iff] at clean
    rw [Component.testName, List.contains_eq_mem, decide_eq_false_iff_not, List.mem_append, not_or]
    exact ⟨by simpa using clean.2, by simp⟩
  rw [testPath]
  rcases Patch.create_cases target placed.inside noNul component.testText
      ("Generated test for " ++ component.name) with
    ⟨long, failed⟩ | ⟨taken, passed⟩ | ⟨free, short, written, wrote, created⟩
  · exact .inl ⟨long, _, DiskAction.bind_of_error failed⟩
  · exact .inr (.inl ⟨taken, DiskAction.bind_of_ok passed⟩)
  · exact .inr (.inr ⟨free, short, _, written, DiskAction.bind_of_ok wrote, testPath ▸ rfl, created⟩)

theorem gains_of_generateTest {outcome : Outcome} (placed : Component.Placed root disk component)
    (ran : generateTest root component disk = (.ok outcome, other)) : disk.Gains other := by
  rcases generateTest_cases root placed with
    ⟨_, e, failed⟩ | ⟨_, passed⟩ | ⟨_, _, outcome', written, wrote, _, created⟩
  · rw [failed] at ran
    cases ran
  · rw [passed] at ran
    cases ran
    exact .refl disk
  · rw [wrote] at ran
    cases ran
    exact created.gains

theorem gains_of_trace (placed : ∀ component ∈ components, Component.Placed root disk component)
    (h : Trace (generateTest root) components disk outcomes other) : disk.Gains other := by
  induction h with
  | nil disk => exact .refl disk
  | cons ran _ ih =>
      have gains := gains_of_generateTest (placed _ (List.mem_cons_self ..)) ran
      exact gains.trans (ih fun component member =>
        (placed component (List.mem_cons_of_mem _ member)).of_same gains.directories)

/-- A disk after a test has been written for each component of a list whose test path was free. -/
structure EachGenerated (components : List Component) (disk other : Disk) : Prop where
  gains : disk.Gains other
  file : ∀ {component}, component ∈ components → disk.nodeAt? component.testPath = none →
    other.nodeAt? component.testPath = some (.file (Utf8.encode component.testText))
  kept : ∀ {location}, (∀ component ∈ components, disk.nodeAt? component.testPath = none →
    disk.place? component.testPath ≠ some location) → other.find? location = disk.find? location

def TestsApart (components : List Component) (disk : Disk) : Prop :=
  ∀ first ∈ components, ∀ second ∈ components, ∀ location,
    disk.place? first.testPath = some location → disk.place? second.testPath = some location →
    first = second

theorem eachGenerated_of_trace
    (placed : ∀ component ∈ components, Component.Placed root disk component)
    (apart : TestsApart components disk)
    (h : Trace (generateTest root) components disk outcomes other) :
    EachGenerated components disk other := by
  induction h with
  | nil disk => exact ⟨.refl disk, fun member => (List.not_mem_nil member).elim, fun _ => rfl⟩
  | @cons first rest disk middle other outcome outcomes ran _ ih =>
      have gains := gains_of_generateTest (placed _ (List.mem_cons_self ..)) ran
      have places := gains.directories.place?_eq
      have later := ih
        (fun component member =>
          (placed component (List.mem_cons_of_mem _ member)).of_same gains.directories)
        (fun one member other member' location leads leads' =>
          apart one (List.mem_cons_of_mem _ member) other (List.mem_cons_of_mem _ member') location
            ((places _).symm.trans leads) ((places _).symm.trans leads'))
      rcases generateTest_cases root (placed first (List.mem_cons_self ..)) with
        ⟨_, e, failed⟩ | ⟨⟨node, taken⟩, passed⟩ | ⟨free, _, _, written, wrote, _, created⟩
      · cases failed.symm.trans ran
      · cases passed.symm.trans ran
        refine ⟨later.gains, fun {component} member free => ?_, fun {location} none => ?_⟩
        · rcases List.mem_cons.1 member with rfl | member
          · cases taken.symm.trans free
          · exact later.file member free
        · exact later.kept fun component member => none component (List.mem_cons_of_mem _ member)
      · cases wrote.symm.trans ran
        have stands : middle.nodeAt? first.testPath = some (.file (Utf8.encode first.testText)) := by
          obtain ⟨location, leads⟩ := created.leads
          refine Disk.nodeAt?_eq_some_iff.2 ⟨location, (places _).trans leads, ?_⟩
          rw [created.node, if_pos leads]
        refine ⟨gains.trans later.gains, fun {component} member free_then => ?_,
          fun {location} none => ?_⟩
        · by_cases still_free : middle.nodeAt? component.testPath = none
          · rcases List.mem_cons.1 member with rfl | member
            · cases stands.symm.trans still_free
            · exact later.file member still_free
          · obtain ⟨node, found⟩ := Option.ne_none_iff_exists'.1 still_free
            obtain ⟨location, leads, there⟩ := Disk.nodeAt?_eq_some_iff.1 found
            rw [places] at leads
            have new : disk.place? first.testPath = some location := by
              refine Classical.byContradiction fun elsewhere => ?_
              rw [created.node, if_neg elsewhere] at there
              cases free_then.symm.trans (Disk.nodeAt?_eq_some_iff.2 ⟨location, leads, there⟩)
            rw [← apart _ (List.mem_cons_self ..) _ member location new leads]
            exact later.gains.nodeAt? stands
        · have not_first := none first (List.mem_cons_self ..) free
          rw [later.kept, created.node, if_neg not_first]
          intro component member free_then
          rw [places]
          refine none component (List.mem_cons_of_mem _ member) ?_
          refine Classical.byContradiction fun taken => ?_
          obtain ⟨node, found⟩ := Option.ne_none_iff_exists'.1 taken
          cases free_then.symm.trans (gains.nodeAt? found)

theorem testsApart_of_untested {directory : Path}
    (h : Component.untested disk directory = .ok components) : TestsApart components disk := by
  intro first member second member' location leads leads'
  obtain ⟨name, found, named, _⟩ := Component.exists_of_mem_untested h member
  obtain ⟨name', found', named', _⟩ := Component.exists_of_mem_untested h member'
  rw [Component.testPath_eq, named, Component.testPathIn_child] at leads
  rw [Component.testPath_eq, named', Component.testPathIn_child] at leads'
  obtain ⟨above, same⟩ := Disk.exists_above_of_child leads
  obtain ⟨above', same'⟩ := Disk.exists_above_of_child leads'
  obtain ⟨_, tests⟩ := List.append_inj' (same.symm.trans same') rfl
  have texts : name.text ++ ".test.tsx".toList = name'.text ++ ".test.tsx".toList :=
    congrArg FileName.text (List.cons.inj tests).1
  have names : name = name' := FileName.ext_text (List.append_cancel_right texts)
  rw [names] at found
  cases found.symm.trans found'
  rfl

theorem each_generateTest_returns_iff (root : Path)
    (placed : ∀ component ∈ components, Component.Placed root disk component) :
    Returns (each components (generateTest root)) disk ↔
      ∀ component ∈ components, ¬ disk.TooLong component.testPath := by
  constructor
  · rintro ⟨outcome, other, ran⟩ component member long
    obtain ⟨outcomes, trace, _⟩ := each_eq_ok_iff.1 ran
    obtain ⟨before, first, middle, outcome, after, early, inside, _, generated, _⟩ :=
      trace.exists_of_mem member
    have gains := gains_of_trace (fun other early => placed other (inside other early)) early
    rcases generateTest_cases root ((placed component member).of_same gains.directories)
      with ⟨_, e, failed⟩ | ⟨⟨node, taken⟩, _⟩ | ⟨_, short, _⟩
    · rw [failed] at generated
      cases generated
    · exact Disk.not_tooLong_of_nodeAt? taken (gains.directories.tooLong_iff.2 long)
    · exact short (gains.directories.tooLong_iff.2 long)
  · intro short
    have traced : ∃ outcomes other, Trace (generateTest root) components disk outcomes other := by
      refine exists_trace disk.Gains ?_ (.refl disk)
      intro component member middle gains
      have placed_then := (placed component member).of_same gains.directories
      rcases generateTest_cases root placed_then with
        ⟨long, _⟩ | ⟨_, passed⟩ | ⟨_, _, outcome, written, wrote, _, created⟩
      · exact absurd (gains.directories.tooLong_iff.1 long) (short component member)
      · exact ⟨_, _, passed, gains⟩
      · exact ⟨outcome, written, wrote, gains.trans created.gains⟩
    obtain ⟨outcomes, other, trace⟩ := traced
    exact ⟨_, other, each_of_trace trace⟩

theorem generateTests_eq (root componentsRoot : Path) (disk : Disk) :
    generateTests root componentsRoot disk =
      match Component.untested disk componentsRoot with
      | .error e => (.error e, disk)
      | .ok components =>
          if components.isEmpty then (.ok (.ofEntry ⟨.info, "No components without tests"⟩), disk)
          else each components (generateTest root) disk := by
  rw [generateTests, DiskAction.bind_of_ok (DiskAction.get_run disk)]
  cases found : Component.untested disk componentsRoot with
  | error e => exact DiskAction.bind_of_error (DiskAction.lift_run (.error e) disk)
  | ok components =>
      refine (DiskAction.bind_of_ok (DiskAction.lift_run (.ok components) disk)).trans ?_
      cases components <;> rfl

theorem exists_trace_of_generateTests {directory : Path} {outcome : Outcome}
    (ran : generateTests root directory disk = (.ok outcome, other)) :
    ∃ components outcomes, Component.untested disk directory = .ok components ∧
      Trace (generateTest root) components disk outcomes other ∧
      outcome.touched = (Outcome.sum outcomes).touched := by
  rw [generateTests_eq] at ran
  cases found : Component.untested disk directory with
  | error e =>
      rw [found] at ran
      cases ran
  | ok components =>
      rw [found] at ran
      cases components with
      | nil =>
          cases ran
          exact ⟨[], [], rfl, .nil disk, rfl⟩
      | cons component rest =>
          obtain ⟨outcomes, trace, rfl⟩ := each_eq_ok_iff.1 ran
          exact ⟨_, outcomes, rfl, trace, rfl⟩

theorem eachGenerated_of_generateTests {outcome : Outcome}
    (ran : generateTests root (root ++ part) disk = (.ok outcome, other)) :
    ∃ components, Component.untested disk (root ++ part) = .ok components ∧
      EachGenerated components disk other := by
  obtain ⟨components, outcomes, found, trace, _⟩ := exists_trace_of_generateTests ran
  exact ⟨components, found, eachGenerated_of_trace
    (fun _ member => Component.placed_of_untested_below found member)
    (testsApart_of_untested found) trace⟩

theorem generateTests_returns_iff (absolute : root.isAbsolute = true) :
    Returns (generateTests root (root ++ part)) disk ↔
      ¬ Component.SearchStops disk (root ++ part) ∧
        ∀ name, Component.Lacks disk (root ++ part) name →
          ¬ disk.TooLong (Component.testPathIn ((root ++ part).child name)) := by
  rw [← Component.untested_returns_iff]
  unfold Returns
  rw [generateTests_eq]
  cases found : Component.untested disk (root ++ part) with
  | error e =>
      refine iff_of_false ?_ ?_
      · rintro ⟨outcome, other, ran⟩
        cases ran
      · rintro ⟨⟨components, ran⟩, _⟩
        cases ran
  | ok components =>
      have tests : (∀ component ∈ components, ¬ disk.TooLong component.testPath) ↔
          ∀ name, Component.Lacks disk (root ++ part) name →
            ¬ disk.TooLong (Component.testPathIn ((root ++ part).child name)) := by
        constructor
        · intro short name lacks
          obtain ⟨component, member, same⟩ := (Component.mem_untested_iff found).2 ⟨name, lacks, rfl⟩
          rw [← same]
          exact short component member
        · intro short component member
          obtain ⟨name, lacks, same⟩ := (Component.mem_untested_iff found).1 ⟨component, member, rfl⟩
          rw [Component.testPath_eq, same]
          exact short name lacks
      rw [← tests, ← each_generateTest_returns_iff root fun component member =>
        Component.placed_of_untested absolute found member]
      cases components with
      | nil => exact iff_of_true ⟨_, _, rfl⟩ ⟨⟨_, rfl⟩, ⟨_, _, rfl⟩⟩
      | cons component rest =>
          refine ⟨fun returns => ⟨⟨_, rfl⟩, returns⟩, fun returns => returns.2⟩

theorem each_generateTest_without_taken {before after : List Component}
    (placed : ∀ chosen ∈ before ++ component :: after, Component.Placed root disk chosen) {node : Node}
    (taken : disk.nodeAt? component.testPath = some node) {outcome : Outcome} :
    each (before ++ component :: after) (generateTest root) disk = (.ok outcome, other) ↔
      each (before ++ after) (generateTest root) disk = (.ok outcome, other) := by
  have passes : ∀ {middle}, disk.Gains middle →
      generateTest root component middle = (.ok .empty, middle) := by
    intro middle gains
    have placed_then := (placed component (by simp)).of_same gains.directories
    have stands := gains.nodeAt? taken
    rcases generateTest_cases root placed_then with
      ⟨long, _⟩ | ⟨_, passed⟩ | ⟨free, _⟩
    · exact absurd long (Disk.not_tooLong_of_nodeAt? stands)
    · exact passed
    · rw [stands] at free
      cases free
  have gains : ∀ {first middle}, Trace (generateTest root) before disk first middle →
      disk.Gains middle :=
    gains_of_trace fun chosen member => placed chosen (List.mem_append_left _ member)
  rw [each_eq_ok_iff, each_eq_ok_iff]
  constructor
  · rintro ⟨outcomes, trace, rfl⟩
    obtain ⟨first, middle, second, rfl, early, late⟩ := trace.exists_of_append
    cases late with
    | cons ran rest =>
        rw [passes (gains early)] at ran
        cases ran
        exact ⟨_, early.append rest, Outcome.sum_insert_empty ..⟩
  · rintro ⟨outcomes, trace, rfl⟩
    obtain ⟨first, middle, second, rfl, early, late⟩ := trace.exists_of_append
    exact ⟨_, early.append (.cons (passes (gains early)) late), (Outcome.sum_insert_empty ..).symm⟩

end Stage

end DiagnosticRepair
