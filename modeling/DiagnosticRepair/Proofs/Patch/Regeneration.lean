import DiagnosticRepair.Proofs.Patch.Touched

namespace DiagnosticRepair

namespace Disk

variable {disk : Disk} {path : Path} {name : FileName} {node : Node}

theorem mem_namesIn_of_child (inside : disk.nodeAt? path = some .directory)
    (found : disk.nodeAt? (path.child name) = some node) : name ∈ disk.namesIn path := by
  have noNul := noNul_of_nodeAt? found
  rw [Path.hasNul_child, Bool.or_eq_false_iff] at noNul
  obtain ⟨location, leads, leads_child, _⟩ :=
    locate_child inside (not_tooLong_of_nodeAt? found) noNul.2
  have there : disk.find? (location ++ [name]) = some node := by
    rwa [nodeAt?, leads_child] at found
  rw [namesIn, (place?_eq_some_iff.1 leads).2]
  exact mem_listing_of_find? there

theorem mem_namesIn_of_isFile (inside : disk.nodeAt? path = some .directory)
    (file : disk.isFile (path.child name) = .ok true) : name ∈ disk.namesIn path := by
  obtain ⟨bytes, found⟩ := isFile_eq_true_iff.1 file
  exact mem_namesIn_of_child inside found

end Disk

namespace Component

variable {disk other : Disk} {componentsRoot directory : Path} {name file : FileName}

theorem isTestName_testName (name : FileName) :
    TestFile.isTestName (testName name).text = true := by
  have text : (testName name).text = name.text ++ ".test.tsx".toList := rfl
  have last : (testName name).text.getLast? = some 'x' := by
    rw [text, List.getLast?_append]
    rfl
  unfold TestFile.isTestName
  rw [last, if_neg (by simp), List.any_eq_true]
  refine ⟨".test.tsx".toList, by decide, ?_⟩
  rw [List.isSuffixOf_iff_suffix, text]
  exact List.suffix_append _ _

theorem isSourceName_testName (name : FileName) : isSourceName (testName name).text = false := by
  have marked : Text.occursIn "test" (testName name).text = true := by
    apply Text.occursIn_iff_infix.2
    exact ⟨name.text ++ ['.'], ".tsx".toList, by simp [testName]⟩
  rw [isSourceName, marked, Bool.not_true, Bool.and_false]

structure GainsTests (disk other : Disk) : Prop where
  gains : disk.Gains other
  named : ∀ location node, disk.find? location = none → other.find? location = some node →
    ∃ above name, location = above ++ [testName name]

theorem GainsTests.isSource (h : GainsTests disk other) (source : IsSource other directory file) :
    IsSource disk directory file := by
  obtain ⟨isFile, named⟩ := source
  obtain ⟨bytes, found⟩ := Disk.isFile_eq_true_iff.1 isFile
  obtain ⟨location, leads, there⟩ := Disk.nodeAt?_eq_some_iff.1 found
  rw [h.gains.directories.place?_eq] at leads
  suffices there_before : disk.find? location = some (.file bytes) from
    ⟨Disk.isFile_eq_true_iff.2
      ⟨bytes, Disk.nodeAt?_eq_some_iff.2 ⟨location, leads, there_before⟩⟩, named⟩
  cases before : disk.find? location with
  | some node => rw [← h.gains.stays before, there]
  | none =>
      -- a new file has the name of a generated test, and by that name it is no source
      obtain ⟨above, _, rfl⟩ := Disk.exists_above_of_child leads
      obtain ⟨above', name, same⟩ := h.named _ _ before there
      obtain ⟨_, last⟩ := List.append_inj' same rfl
      rw [(List.cons.inj last).1, isSourceName_testName] at named
      cases named

theorem GainsTests.isTest (h : GainsTests disk other) (test : IsTest disk directory file) :
    IsTest other directory file := by
  obtain ⟨bytes, found⟩ := Disk.isFile_eq_true_iff.1 test.1
  exact ⟨Disk.isFile_eq_true_iff.2 ⟨bytes, h.gains.nodeAt? found⟩, test.2⟩

theorem GainsTests.lacks (h : GainsTests disk other) (lacks : Lacks other componentsRoot name) :
    Lacks disk componentsRoot name := by
  have directories : ∀ {path}, other.nodeAt? path = some .directory →
      disk.nodeAt? path = some .directory := h.gains.directories.nodeAt?_eq_directory_iff.1
  have root := directories lacks.looked.root
  have inside := directories lacks.looked.directory
  refine ⟨⟨root, Disk.mem_namesIn_of_child root inside, inside, lacks.looked.wanted⟩, ?_, ?_⟩
  · intro file _ test
    have later := h.isTest test
    exact lacks.untested file (Disk.mem_namesIn_of_isFile lacks.looked.directory later.1) later
  · obtain ⟨file, _, source⟩ := lacks.source
    have earlier := h.isSource source
    exact ⟨file, Disk.mem_namesIn_of_isFile inside earlier.1, earlier⟩

end Component

namespace Stage

variable {disk other third : Disk} {root part : Path} {component : Component}
  {components : List Component} {outcomes : List Outcome} {outcome outcome' : Outcome}
  {location : Location} {node : Node}

theorem EachGenerated.exists_of_new (generated : EachGenerated components disk other)
    (free : disk.find? location = none) (there : other.find? location = some node) :
    ∃ component ∈ components, disk.nodeAt? component.testPath = none ∧
      disk.place? component.testPath = some location ∧
      node = .file (Utf8.encode component.testText) := by
  have written : ∃ component ∈ components, disk.nodeAt? component.testPath = none ∧
      disk.place? component.testPath = some location := by
    refine Classical.byContradiction fun none_there => ?_
    rw [generated.kept fun component member open_path leads =>
      none_there ⟨component, member, open_path, leads⟩, free] at there
    cases there
  obtain ⟨component, member, open_path, leads⟩ := written
  refine ⟨component, member, open_path, leads, ?_⟩
  have stands := generated.file member open_path
  rw [Disk.nodeAt?, generated.gains.directories.place?_eq, leads, Option.bind_some, there] at stands
  exact Option.some.inj stands

theorem gainsTests_of_eachGenerated
    (found : Component.untested disk (root ++ part) = .ok components)
    (generated : EachGenerated components disk other) : Component.GainsTests disk other := by
  refine ⟨generated.gains, fun location node free there => ?_⟩
  obtain ⟨component, member, _, leads, _⟩ := generated.exists_of_new free there
  obtain ⟨name, _, same, _⟩ := Component.exists_of_mem_untested found member
  rw [Component.testPath_eq, same, Component.testPathIn_child] at leads
  obtain ⟨above, rfl⟩ := Disk.exists_above_of_child leads
  exact ⟨above, name, rfl⟩

theorem taken_of_untested_again (found : Component.untested disk (root ++ part) = .ok components)
    (generated : EachGenerated components disk other) {name : FileName}
    (lacks : Component.Lacks other (root ++ part) name) :
    ∃ node, disk.nodeAt? (Component.testPathIn ((root ++ part).child name)) = some node := by
  -- A generated test is met as a test, so what still lacks one had its test's name taken before.
  have lacked := (gainsTests_of_eachGenerated found generated).lacks lacks
  obtain ⟨component, member, same⟩ := (Component.mem_untested_iff found).2 ⟨name, lacked, rfl⟩
  rw [← same, ← Component.testPath_eq]
  cases taken : disk.nodeAt? component.testPath with
  | some node => exact ⟨node, rfl⟩
  | none =>
      have written := generated.file member taken
      rw [Component.testPath_eq, same, Component.testPathIn_child] at written
      have test : Component.IsTest other ((root ++ part).child name) (Component.testName name) :=
        ⟨Disk.isFile_eq_true_iff.2 ⟨_, written⟩, Component.isTestName_testName name⟩
      have listed := Disk.mem_namesIn_of_child lacks.looked.directory written
      exact absurd test (lacks.untested _ listed)

theorem trace_of_taken (placed : ∀ component ∈ components, Component.Placed root disk component)
    (taken : ∀ component ∈ components, ∃ node, disk.nodeAt? component.testPath = some node)
    (h : Trace (generateTest root) components disk outcomes other) :
    other = disk ∧ ∀ outcome ∈ outcomes, outcome = .empty := by
  induction h with
  | nil => exact ⟨rfl, by simp⟩
  | @cons component rest disk middle other outcome outcomes ran _ ih =>
      obtain ⟨node, stands⟩ := taken component (List.mem_cons_self ..)
      rcases generateTest_cases root (placed component (List.mem_cons_self ..)) with
        ⟨long, _⟩ | ⟨_, passed⟩ | ⟨free, _⟩
      · exact absurd long (Disk.not_tooLong_of_nodeAt? stands)
      · cases passed.symm.trans ran
        obtain ⟨rfl, idle⟩ := ih
          (fun component member => placed component (List.mem_cons_of_mem _ member))
          (fun component member => taken component (List.mem_cons_of_mem _ member))
        exact ⟨rfl, List.forall_mem_cons.2 ⟨rfl, idle⟩⟩
      · cases stands.symm.trans free

theorem generateTests_of_generated (found : Component.untested disk (root ++ part) = .ok components)
    (generated : EachGenerated components disk other)
    (again : generateTests root (root ++ part) other = (.ok outcome', third)) :
    third = other ∧ outcome'.touched = [] := by
  obtain ⟨later, outcomes, found', trace, touched⟩ := exists_trace_of_generateTests again
  have taken : ∀ component ∈ later, ∃ node, other.nodeAt? component.testPath = some node := by
    intro component member
    obtain ⟨name, _, same, lacks⟩ := Component.exists_of_mem_untested found' member
    obtain ⟨node, stood⟩ := taken_of_untested_again found generated lacks
    rw [← same, ← Component.testPath_eq] at stood
    exact ⟨node, generated.gains.nodeAt? stood⟩
  obtain ⟨rfl, idle⟩ := trace_of_taken
    (fun _ member => Component.placed_of_untested_below found' member) taken trace
  refine ⟨rfl, List.eq_nil_iff_forall_not_mem.2 fun path member => ?_⟩
  rw [touched] at member
  obtain ⟨outcome, listed, touches⟩ := Outcome.mem_touched_sum.1 member
  rw [idle outcome listed] at touches
  cases touches

theorem free_of_mem_touched {path : Path}
    (placed : ∀ component ∈ components, Component.Placed root disk component)
    (trace : Trace (generateTest root) components disk outcomes other)
    (h : path ∈ (Outcome.sum outcomes).touched) :
    ∃ component ∈ components, disk.nodeAt? component.testPath = none ∧
      path = component.testPath.below root := by
  obtain ⟨outcome, listed, touched⟩ := Outcome.mem_touched_sum.1 h
  obtain ⟨before, first, middle, component, after, early, inside, member, ran⟩ :=
    trace.exists_of_mem_outcomes listed
  have gains := gains_of_trace (fun other early => placed other (inside other early)) early
  rcases generateTest_cases root ((placed component member).of_same gains.directories) with
    ⟨_, e, failed⟩ | ⟨_, passed⟩ | ⟨free, _, written, _, wrote, only, _⟩
  · cases failed.symm.trans ran
  · cases passed.symm.trans ran
    cases touched
  · cases wrote.symm.trans ran
    rw [only, List.mem_singleton] at touched
    refine ⟨component, member, ?_, touched⟩
    cases there : disk.nodeAt? component.testPath with
    | none => rfl
    | some node => cases free.symm.trans (gains.nodeAt? there)

theorem mem_touched_iff_of_generateTests
    (ran : generateTests root (root ++ part) disk = (.ok outcome, other))
    (found : Component.untested disk (root ++ part) = .ok components) {path : Path} :
    path ∈ outcome.touched ↔ ∃ component ∈ components, disk.nodeAt? component.testPath = none ∧
      path = component.testPath.below root := by
  have placed : ∀ component ∈ components, Component.Placed root disk component :=
    fun _ member => Component.placed_of_untested_below found member
  obtain ⟨_, outcomes, found', trace, touched⟩ := exists_trace_of_generateTests ran
  obtain rfl := Except.ok.inj (found.symm.trans found')
  have free : ∀ path ∈ outcome.touched, ∃ component ∈ components,
      disk.nodeAt? component.testPath = none ∧ path = component.testPath.below root := by
    intro path member
    exact free_of_mem_touched placed trace (touched ▸ member)
  constructor
  · exact free path
  · rintro ⟨component, member, open_path, rfl⟩
    have generated := eachGenerated_of_trace placed (testsApart_of_untested found) trace
    obtain ⟨location, leads, there⟩ := Disk.nodeAt?_eq_some_iff.1 (generated.file member open_path)
    rw [generated.gains.directories.place?_eq] at leads
    have changed : other.find? location ≠ disk.find? location := by
      have nothing : disk.find? location = none := by
        rwa [Disk.nodeAt?, leads] at open_path
      simp [there, nothing]
    have touches : disk.Touches (fun _ _ => True) root outcome.touched other :=
      touches_of_generateTests (fun _ _ _ _ _ => trivial) ran
    -- some path that was touched leads to the file that changed, where no other test lies
    obtain ⟨path, reported, leads'⟩ := (touches.reported location).resolve_left changed
    obtain ⟨component', member', _, rfl⟩ := free path reported
    rw [(placed component' member').reached] at leads'
    have same : component = component' :=
      testsApart_of_untested found _ member _ member' location leads leads'
    rw [same]
    exact reported

theorem generateTests_only_adds
    (ran : generateTests root (root ++ part) disk = (.ok outcome, other)) :
    ∃ components, Component.untested disk (root ++ part) = .ok components ∧
      (∀ location node, disk.find? location = some node → other.find? location = some node) ∧
      (∀ component ∈ components, disk.nodeAt? component.testPath = none →
        other.nodeAt? component.testPath = some (.file (Utf8.encode component.testText))) ∧
      (∀ location node, disk.find? location = none → other.find? location = some node →
        ∃ component ∈ components, disk.nodeAt? component.testPath = none ∧
          disk.place? component.testPath = some location ∧
          node = .file (Utf8.encode component.testText)) ∧
      (∀ path, path ∈ outcome.touched ↔ ∃ component ∈ components,
        disk.nodeAt? component.testPath = none ∧ path = component.testPath.below root) ∧
      ∀ outcome' third, generateTests root (root ++ part) other = (.ok outcome', third) →
        third = other ∧ outcome'.touched = [] := by
  obtain ⟨components, found, generated⟩ := eachGenerated_of_generateTests ran
  refine ⟨components, found, fun _ _ => generated.gains.stays, fun _ => generated.file,
    fun _ _ => generated.exists_of_new, fun _ => mem_touched_iff_of_generateTests ran found, ?_⟩
  exact fun _ _ => generateTests_of_generated found generated

def ui : FileName := ⟨"ui", by decide⟩

def card : FileName := ⟨"card", by decide⟩

def icon : FileName := ⟨"icon", by decide⟩

def indexSource : FileName := ⟨"index.tsx", by decide⟩

def uiDisk : Disk :=
  ((((((Disk.empty []).put [] ui .directory).put [ui] card .directory).put [ui, card] indexSource
    (.file (Utf8.encode "export default Card;\n".toList))).put [ui] icon .directory).put [ui, icon]
    indexSource (.file (Utf8.encode "export const Icon = 1;\n".toList))).put [ui, icon]
    (Component.testName icon) .directory

theorem generateTests_only_adds_ui :
    ∃ outcome other,
      generateTests ⟨.root, []⟩ (⟨.root, []⟩ ++ Path.ofText "ui") uiDisk = (.ok outcome, other) ∧
      other.find? [ui, card, indexSource] =
        some (.file (Utf8.encode "export default Card;\n".toList)) ∧
      ¬ (∃ bytes, other.find? [ui, icon, Component.testName icon] = some (.file bytes)) ∧
      Path.ofText "ui/card/card.test.tsx" ∈ outcome.touched ∧
      ∀ outcome' third, generateTests ⟨.root, []⟩ (⟨.root, []⟩ ++ Path.ofText "ui") other =
        (.ok outcome', third) → third = other ∧ outcome'.touched = [] := by
  have written : (match generateTests ⟨.root, []⟩ (⟨.root, []⟩ ++ Path.ofText "ui") uiDisk with
      | (.ok outcome, _) => decide (Path.ofText "ui/card/card.test.tsx" ∈ outcome.touched)
      | (.error _, _) => false) = true := by
    decide +kernel
  rcases ran : generateTests ⟨.root, []⟩ (⟨.root, []⟩ ++ Path.ofText "ui") uiDisk with
    ⟨e | outcome, other⟩
  · rw [ran] at written
    cases written
  · rw [ran] at written
    obtain ⟨_, _, kept, _, _, _, again⟩ := generateTests_only_adds ran
    refine ⟨outcome, other, ran, kept _ _ (by decide +kernel), ?_, of_decide_eq_true written, again⟩
    rintro ⟨bytes, there⟩
    have directory : uiDisk.find? [ui, icon, Component.testName icon] = some .directory := by
      decide +kernel
    cases there.symm.trans (kept _ _ directory)

end Stage

end DiagnosticRepair
