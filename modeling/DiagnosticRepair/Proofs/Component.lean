import DiagnosticRepair.Component
import DiagnosticRepair.Proofs.Disk.Listing
import DiagnosticRepair.Proofs.Disk.Creation

namespace DiagnosticRepair.Component

variable {disk other : Disk} {directory componentsRoot : Path} {entries : List FileName}
  {name : FileName}

def testPathIn (directory : Path) : Path :=
  directory ++ Path.ofText (directory.name ++ ".test.tsx")

theorem testPath_eq (component : Component) : component.testPath = testPathIn component.directory :=
  rfl

def IsTest (disk : Disk) (directory : Path) (file : FileName) : Prop :=
  disk.isFile (directory.child file) = .ok true ∧ TestFile.isTestName file.text = true

def IsSource (disk : Disk) (directory : Path) (file : FileName) : Prop :=
  disk.isFile (directory.child file) = .ok true ∧ isSourceName file.text = true

/-- Before a test is found an entry is asked about whose path is too long. -/
def StopsIn (disk : Disk) (directory : Path) (entries : List FileName) : Prop :=
  ∃ before file after, entries = before ++ file :: after ∧
    (∀ early ∈ before, ¬ IsTest disk directory early) ∧ disk.TooLong (directory.child file)

structure LooksInto (disk : Disk) (componentsRoot : Path) (name : FileName) : Prop where
  root : disk.nodeAt? componentsRoot = some .directory
  listed : name ∈ disk.namesIn componentsRoot
  directory : disk.nodeAt? (componentsRoot.child name) = some .directory
  wanted : TestFile.isExcluded name.text = false

structure Lacks (disk : Disk) (componentsRoot : Path) (name : FileName) : Prop where
  looked : LooksInto disk componentsRoot name
  untested : ∀ file ∈ disk.namesIn (componentsRoot.child name),
    ¬ IsTest disk (componentsRoot.child name) file
  source : ∃ file ∈ disk.namesIn (componentsRoot.child name),
    IsSource disk (componentsRoot.child name) file

inductive SearchStops (disk : Disk) (componentsRoot : Path) : Prop where
  | root : disk.TooLong componentsRoot → SearchStops disk componentsRoot
  | entry : ∀ {name : FileName}, disk.nodeAt? componentsRoot = some .directory →
      name ∈ disk.namesIn componentsRoot → disk.TooLong (componentsRoot.child name) →
      SearchStops disk componentsRoot
  | within : ∀ {name : FileName}, LooksInto disk componentsRoot name →
      StopsIn disk (componentsRoot.child name) (disk.namesIn (componentsRoot.child name)) →
      SearchStops disk componentsRoot

theorem isFile_of_not_tooLong {path : Path} (h : ¬ disk.TooLong path) :
    ∃ answer, disk.isFile path = .ok answer :=
  ⟨_, Disk.test_of_not_tooLong _ h⟩

theorem hasTest_cons (disk : Disk) (directory : Path) (file : FileName) (rest : List FileName) :
    hasTest disk directory (file :: rest) =
      (disk.isFile (directory.child file)).bind fun isFile =>
        if isFile && TestFile.isTestName file.text then .ok true else hasTest disk directory rest := by
  unfold hasTest
  rw [List.anyM]
  cases disk.isFile (directory.child file) with
  | error e => rfl
  | ok isFile => cases named : isFile && TestFile.isTestName file.text <;>
      simp [bind, Except.bind, pure, Except.pure, named]

theorem stopsIn_cons_iff {file : FileName} {rest : List FileName}
    (short : ¬ disk.TooLong (directory.child file)) :
    StopsIn disk directory (file :: rest) ↔
      ¬ IsTest disk directory file ∧ StopsIn disk directory rest := by
  constructor
  · rintro ⟨before, late, after, split, early, too_long⟩
    cases before with
    | nil =>
        cases split
        exact absurd too_long short
    | cons first before =>
        cases split
        exact ⟨early _ (List.mem_cons_self ..), before, late, after, rfl,
          fun other member => early other (List.mem_cons_of_mem _ member), too_long⟩
  · rintro ⟨no_test, before, late, after, rfl, early, too_long⟩
    exact ⟨file :: before, late, after, rfl, List.forall_mem_cons.2 ⟨no_test, early⟩, too_long⟩

theorem hasTest_cases (disk : Disk) (directory : Path) : ∀ entries : List FileName,
    ((∃ e, hasTest disk directory entries = .error e) ∧ StopsIn disk directory entries) ∨
    (hasTest disk directory entries = .ok true ∧ ¬ StopsIn disk directory entries ∧
      ∃ file ∈ entries, IsTest disk directory file) ∨
    (hasTest disk directory entries = .ok false ∧
      ∀ file ∈ entries, ¬ IsTest disk directory file ∧ ¬ disk.TooLong (directory.child file))
  | [] => .inr (.inr ⟨rfl, by simp⟩)
  | file :: rest => by
      rw [hasTest_cons]
      by_cases long : disk.TooLong (directory.child file)
      · left
        have refused : disk.isFile (directory.child file) = .error _ := Disk.test_of_tooLong _ long
        rw [refused]
        exact ⟨⟨_, rfl⟩, [], file, rest, rfl, by simp, long⟩
      · obtain ⟨isFile, answered⟩ := isFile_of_not_tooLong long
        rw [answered]
        simp only [Except.bind]
        have here : IsTest disk directory file ↔ (isFile && TestFile.isTestName file.text) = true := by
          rw [IsTest, answered, Except.ok.injEq, Bool.and_eq_true]
        by_cases test : IsTest disk directory file
        · right; left
          rw [if_pos (here.1 test)]
          exact ⟨rfl, fun stops => ((stopsIn_cons_iff long).1 stops).1 test, file,
            List.mem_cons_self .., test⟩
        · rw [if_neg (mt here.2 test)]
          rcases hasTest_cases disk directory rest with
            ⟨refused, later⟩ | ⟨found, later, other, member, tests⟩ | ⟨none_found, others⟩
          · exact .inl ⟨refused, (stopsIn_cons_iff long).2 ⟨test, later⟩⟩
          · exact .inr (.inl ⟨found, fun stops => later ((stopsIn_cons_iff long).1 stops).2, other,
              List.mem_cons_of_mem _ member, tests⟩)
          · exact .inr (.inr ⟨none_found, List.forall_mem_cons.2 ⟨⟨test, long⟩, others⟩⟩)

theorem isSome_chooseSource?_iff (files : List FileName) (name : Text) :
    (chooseSource? files name).isSome = true ↔ ∃ file ∈ files, isSourceName file.text = true := by
  have some_source : (chooseSource? files name).isSome = true ↔
      sortBy FileName.le (files.filter (isSourceName ·.text)) ≠ [] := by
    unfold chooseSource?
    cases sources : sortBy FileName.le (files.filter (isSourceName ·.text)) <;> simp
  rw [some_source, ne_eq, List.eq_nil_iff_forall_not_mem]
  simp [mem_sortBy]

theorem ofDirectory?_cases (disk : Disk) (directory : Path) (entries : List FileName) :
    ((∃ e, ofDirectory? disk directory entries = .error e) ∧ StopsIn disk directory entries) ∨
    (ofDirectory? disk directory entries = .ok none ∧ ¬ StopsIn disk directory entries ∧
      ((∃ file ∈ entries, IsTest disk directory file) ∨
        ¬ ∃ file ∈ entries, IsSource disk directory file)) ∨
    ∃ component, ofDirectory? disk directory entries = .ok (some component) ∧
      component.directory = directory ∧ ¬ StopsIn disk directory entries ∧
      (∀ file ∈ entries, ¬ IsTest disk directory file) ∧
      ∃ file ∈ entries, IsSource disk directory file := by
  unfold ofDirectory?
  rcases hasTest_cases disk directory entries with
    ⟨⟨e, refused⟩, stops⟩ | ⟨found, goes, test⟩ | ⟨none_found, all⟩
  · rw [refused]
    exact .inl ⟨⟨e, rfl⟩, stops⟩
  · rw [found]
    exact .inr (.inl ⟨rfl, goes, .inl test⟩)
  · right
    have goes : ¬ StopsIn disk directory entries := by
      rintro ⟨before, file, after, rfl, _, long⟩
      exact (all file (by simp)).2 long
    have answers : ∀ file ∈ entries, disk.isFile (directory.child file) =
        .ok ((disk.nodeAt? (directory.child file)).any (· ≠ .directory)) :=
      fun file member => Disk.test_of_not_tooLong _ (all file member).2
    have files := Asking.filterM_of_answers answers
    have sources : (∃ file ∈ entries, IsSource disk directory file) ↔
        ∃ file ∈ entries.filter fun file =>
          (disk.nodeAt? (directory.child file)).any (· ≠ .directory),
          isSourceName file.text = true := by
      simp only [List.mem_filter, IsSource, and_assoc]
      refine exists_congr fun file => and_congr_right fun member => ?_
      rw [answers file member, Except.ok.injEq]
    rw [none_found]
    simp only [bind, Except.bind, pure, Except.pure, Bool.false_eq_true, if_false, files]
    cases chosen : chooseSource? (entries.filter fun file =>
        (disk.nodeAt? (directory.child file)).any (· ≠ .directory)) (nameOfDirectory directory.name) with
    | none =>
        refine .inl ⟨rfl, goes, .inr fun source => ?_⟩
        have some_source := (isSome_chooseSource?_iff _ (nameOfDirectory directory.name)).2
          (sources.1 source)
        rw [chosen] at some_source
        cases some_source
    | some source =>
        refine .inr ⟨_, rfl, rfl, goes, fun file member => (all file member).1, sources.2 ?_⟩
        refine (isSome_chooseSource?_iff _ (nameOfDirectory directory.name)).1 ?_
        rw [chosen]
        rfl

def StopsAt (disk : Disk) (componentsRoot : Path) (name : FileName) : Prop :=
  disk.TooLong (componentsRoot.child name) ∨ LooksInto disk componentsRoot name ∧
    StopsIn disk (componentsRoot.child name) (disk.namesIn (componentsRoot.child name))

theorem ofEntry?_cases (root : disk.nodeAt? componentsRoot = some .directory)
    (listed : name ∈ disk.namesIn componentsRoot) :
    ((∃ e, ofEntry? disk componentsRoot name = .error e) ∧ StopsAt disk componentsRoot name) ∨
    (¬ StopsAt disk componentsRoot name ∧ ofEntry? disk componentsRoot name = .ok none ∧
      ¬ Lacks disk componentsRoot name) ∨
    ∃ component, ofEntry? disk componentsRoot name = .ok (some component) ∧
      component.directory = componentsRoot.child name ∧ ¬ StopsAt disk componentsRoot name ∧
      Lacks disk componentsRoot name := by
  unfold ofEntry?
  by_cases long : disk.TooLong (componentsRoot.child name)
  · left
    have refused : disk.isDirectory (componentsRoot.child name) = .error _ :=
      Disk.test_of_tooLong _ long
    simp only [refused]
    exact ⟨⟨_, rfl⟩, .inl long⟩
  · by_cases looked : LooksInto disk componentsRoot name
    · have inside := Disk.isDirectory_eq_true_iff.2 looked.directory
      have stops : StopsAt disk componentsRoot name ↔ StopsIn disk (componentsRoot.child name)
          (disk.namesIn (componentsRoot.child name)) := by
        simp [StopsAt, long, looked]
      simp only [inside, bind, Except.bind, looked.wanted, Bool.not_true, Bool.or_self,
        Bool.false_eq_true, if_false, stops]
      rcases ofDirectory?_cases disk (componentsRoot.child name)
          (disk.namesIn (componentsRoot.child name)) with
        ⟨refused, stops⟩ | ⟨nothing, goes, held⟩ | ⟨component, found, same, goes, untested, source⟩
      · exact .inl ⟨refused, stops⟩
      · refine .inr (.inl ⟨goes, nothing, fun lacks => ?_⟩)
        rcases held with ⟨file, member, test⟩ | no_source
        · exact lacks.untested file member test
        · exact no_source lacks.source
      · exact .inr (.inr ⟨component, found, same, goes, looked, untested, source⟩)
    · right; left
      have goes : ¬ StopsAt disk componentsRoot name := by
        rintro (too_long | ⟨into, _⟩)
        · exact long too_long
        · exact looked into
      refine ⟨goes, ?_, fun lacks => looked lacks.looked⟩
      have answered : disk.isDirectory (componentsRoot.child name) = .ok _ :=
        Disk.test_of_not_tooLong _ long
      cases inside : (disk.nodeAt? (componentsRoot.child name)).any (· = .directory) with
      | false =>
          simp only [answered, inside]
          rfl
      | true =>
          have directory := Disk.isDirectory_eq_true_iff.1 (answered.trans (congrArg _ inside))
          cases excluded : TestFile.isExcluded name.text with
          | false => exact absurd ⟨root, listed, directory, excluded⟩ looked
          | true => simp [answered, inside, bind, Except.bind, pure, Except.pure]

theorem searchStops_iff (root : disk.nodeAt? componentsRoot = some .directory) :
    SearchStops disk componentsRoot ↔
      ∃ name ∈ disk.namesIn componentsRoot, StopsAt disk componentsRoot name := by
  constructor
  · rintro (long | @⟨name, _, listed, long⟩ | @⟨name, looked, stops⟩)
    · exact absurd long (Disk.not_tooLong_of_nodeAt? root)
    · exact ⟨name, listed, .inl long⟩
    · exact ⟨name, looked.listed, .inr ⟨looked, stops⟩⟩
  · rintro ⟨name, listed, long | ⟨looked, stops⟩⟩
    · exact .entry root listed long
    · exact .within looked stops

def answers (disk : Disk) (componentsRoot : Path) : Except AccessError (List (Option Component)) :=
  (sortBy FileName.le (disk.namesIn componentsRoot)).mapM fun name => ofEntry? disk componentsRoot name

theorem untested_of_directory (root : disk.nodeAt? componentsRoot = some .directory) :
    untested disk componentsRoot = (answers disk componentsRoot).map (·.filterMap id) := by
  unfold untested answers
  rw [Disk.isDirectory_eq_true_iff.2 root]
  simp only [bind, Except.bind, if_true]
  cases (sortBy FileName.le (disk.namesIn componentsRoot)).mapM fun name =>
    ofEntry? disk componentsRoot name <;> rfl

theorem answers_returns_iff : (∃ given, answers disk componentsRoot = .ok given) ↔
    ∀ name ∈ disk.namesIn componentsRoot, ∃ answer, ofEntry? disk componentsRoot name = .ok answer := by
  simp only [answers, Asking.mapM_returns_iff, mem_sortBy]

theorem mem_of_answers {given : List (Option Component)} {answer : Option Component}
    (asked : answers disk componentsRoot = .ok given) :
    answer ∈ given ↔ ∃ name ∈ disk.namesIn componentsRoot,
      ofEntry? disk componentsRoot name = .ok answer := by
  simp only [Asking.mem_of_mapM asked, mem_sortBy]

theorem untested_returns_iff :
    (∃ components, untested disk componentsRoot = .ok components) ↔
      ¬ SearchStops disk componentsRoot := by
  by_cases root : disk.nodeAt? componentsRoot = some .directory
  · rw [searchStops_iff root, untested_of_directory root]
    have asked : (∃ components, (answers disk componentsRoot).map (·.filterMap id) = .ok components) ↔
        ∃ given, answers disk componentsRoot = .ok given := by
      cases answers disk componentsRoot <;> simp [Except.map]
    rw [asked, answers_returns_iff]
    constructor
    · rintro answered ⟨name, listed, stops⟩
      obtain ⟨answer, answered⟩ := answered name listed
      rcases ofEntry?_cases root listed with ⟨⟨e, refused⟩, _⟩ | ⟨goes, _⟩ | ⟨_, _, _, goes, _⟩
      · rw [refused] at answered
        cases answered
      · exact goes stops
      · exact goes stops
    · intro goes name listed
      rcases ofEntry?_cases root listed with ⟨_, stops⟩ | ⟨_, none_found, _⟩ | ⟨component, found, _⟩
      · exact absurd ⟨_, listed, stops⟩ goes
      · exact ⟨_, none_found⟩
      · exact ⟨_, found⟩
  · by_cases long : disk.TooLong componentsRoot
    · have refused : disk.isDirectory componentsRoot = .error _ := Disk.test_of_tooLong _ long
      unfold untested
      rw [refused]
      refine iff_of_false ?_ fun goes => goes (.root long)
      rintro ⟨components, found⟩
      cases found
    · have answered : disk.isDirectory componentsRoot = .ok false := by
        have := Disk.test_of_not_tooLong (· = .directory) long
        cases inside : (disk.nodeAt? componentsRoot).any (· = .directory) with
        | false => exact this.trans (congrArg _ inside)
        | true =>
            exact absurd (Disk.isDirectory_eq_true_iff.1 (this.trans (congrArg _ inside))) root
      unfold untested
      rw [answered]
      refine iff_of_true ⟨[], rfl⟩ ?_
      rintro (too_long | ⟨is_root, _⟩ | ⟨looked, _⟩)
      · exact long too_long
      · exact root is_root
      · exact root looked.root

theorem lacks_of_ofEntry? {component : Component}
    (root : disk.nodeAt? componentsRoot = some .directory)
    (listed : name ∈ disk.namesIn componentsRoot)
    (found : ofEntry? disk componentsRoot name = .ok (some component)) :
    component.directory = componentsRoot.child name ∧ Lacks disk componentsRoot name := by
  rcases ofEntry?_cases root listed with
    ⟨⟨e, refused⟩, _⟩ | ⟨_, none_found, _⟩ | ⟨other, is_found, same, _, lacks⟩
  · rw [refused] at found
    cases found
  · rw [none_found] at found
    cases found
  · rw [is_found] at found
    cases found
    exact ⟨same, lacks⟩

theorem Lacks.exists_component {answer : Option Component} (lacks : Lacks disk componentsRoot name)
    (answered : ofEntry? disk componentsRoot name = .ok answer) :
    ∃ component, answer = some component ∧ component.directory = componentsRoot.child name := by
  rcases ofEntry?_cases lacks.looked.root lacks.looked.listed with
    ⟨⟨e, refused⟩, _⟩ | ⟨_, _, not_lacking⟩ | ⟨component, found, same, _, _⟩
  · rw [refused] at answered
    cases answered
  · exact absurd lacks not_lacking
  · rw [found] at answered
    exact ⟨component, (Except.ok.inj answered).symm, same⟩

theorem untested_of_no_directory {components : List Component}
    (root : disk.nodeAt? componentsRoot ≠ some .directory)
    (h : untested disk componentsRoot = .ok components) : components = [] := by
  unfold untested at h
  cases asked : disk.isDirectory componentsRoot with
  | error e =>
      rw [asked] at h
      cases h
  | ok inside =>
      cases inside with
      | true => exact absurd (Disk.isDirectory_eq_true_iff.1 asked) root
      | false =>
          rw [asked] at h
          cases h
          rfl

theorem exists_of_mem_untested {components : List Component} {component : Component}
    (h : untested disk componentsRoot = .ok components) (member : component ∈ components) :
    ∃ name, ofEntry? disk componentsRoot name = .ok (some component) ∧
      component.directory = componentsRoot.child name ∧ Lacks disk componentsRoot name := by
  by_cases root : disk.nodeAt? componentsRoot = some .directory
  · rw [untested_of_directory root] at h
    cases asked : answers disk componentsRoot with
    | error e =>
        rw [asked] at h
        cases h
    | ok given =>
        rw [asked] at h
        cases h
        obtain ⟨answer, inside, some_component⟩ := List.mem_filterMap.1 member
        obtain rfl : answer = some component := some_component
        obtain ⟨name, listed, answered⟩ := (mem_of_answers asked).1 inside
        exact ⟨name, answered, lacks_of_ofEntry? root listed answered⟩
  · rw [untested_of_no_directory root h] at member
    cases member

theorem mem_untested_iff {components : List Component}
    (h : untested disk componentsRoot = .ok components) :
    (∃ component ∈ components, component.directory = directory) ↔
      ∃ name, Lacks disk componentsRoot name ∧ directory = componentsRoot.child name := by
  constructor
  · rintro ⟨component, member, rfl⟩
    obtain ⟨name, _, same, lacks⟩ := exists_of_mem_untested h member
    exact ⟨name, lacks, same⟩
  · rintro ⟨name, lacks, rfl⟩
    rw [untested_of_directory lacks.looked.root] at h
    have listed := lacks.looked.listed
    cases asked : answers disk componentsRoot with
    | error e =>
        rw [asked] at h
        cases h
    | ok given =>
        rw [asked] at h
        cases h
        obtain ⟨answer, answered⟩ := answers_returns_iff.1 ⟨given, asked⟩ name listed
        obtain ⟨component, rfl, same⟩ := lacks.exists_component answered
        refine ⟨component, List.mem_filterMap.2 ⟨some component, ?_, rfl⟩, same⟩
        exact (mem_of_answers asked).2 ⟨name, listed, answered⟩

section

variable (same : disk.SameButTexts other)

include same

theorem isTest_iff {file : FileName} : IsTest other directory file ↔ IsTest disk directory file := by
  rw [IsTest, IsTest, same.isFile_eq]

theorem stopsIn_iff : StopsIn other directory entries ↔ StopsIn disk directory entries := by
  simp only [StopsIn, isTest_iff same, same.sameDirectories.tooLong_iff]

theorem looksInto_iff : LooksInto other componentsRoot name ↔ LooksInto disk componentsRoot name := by
  have directories : ∀ path, other.nodeAt? path = some .directory ↔
      disk.nodeAt? path = some .directory :=
    fun _ => same.sameDirectories.nodeAt?_eq_directory_iff
  constructor
  · rintro ⟨root, listed, directory, wanted⟩
    exact ⟨(directories _).1 root, same.namesIn_eq _ ▸ listed, (directories _).1 directory, wanted⟩
  · rintro ⟨root, listed, directory, wanted⟩
    exact ⟨(directories _).2 root, same.namesIn_eq _ ▸ listed, (directories _).2 directory, wanted⟩

theorem lacks_iff : Lacks other componentsRoot name ↔ Lacks disk componentsRoot name := by
  constructor
  · rintro ⟨looked, untested, source⟩
    rw [looksInto_iff same] at looked
    simp only [IsTest, IsSource, same.isFile_eq, same.namesIn_eq] at untested source
    exact ⟨looked, untested, source⟩
  · rintro ⟨looked, untested, source⟩
    rw [← looksInto_iff same] at looked
    refine ⟨looked, ?_, ?_⟩
    · simpa only [IsTest, same.isFile_eq, same.namesIn_eq] using untested
    · simpa only [IsSource, same.isFile_eq, same.namesIn_eq] using source

theorem searchStops_iff_of_same :
    SearchStops other componentsRoot ↔ SearchStops disk componentsRoot := by
  have directory : other.nodeAt? componentsRoot = some .directory ↔
      disk.nodeAt? componentsRoot = some .directory :=
    same.sameDirectories.nodeAt?_eq_directory_iff
  by_cases root : disk.nodeAt? componentsRoot = some .directory
  · rw [searchStops_iff root, searchStops_iff (directory.2 root)]
    simp only [StopsAt, same.namesIn_eq, same.sameDirectories.tooLong_iff, looksInto_iff same,
      stopsIn_iff same]
  · have stops_iff : ∀ {some_disk : Disk}, some_disk.nodeAt? componentsRoot ≠ some .directory →
        (SearchStops some_disk componentsRoot ↔ some_disk.TooLong componentsRoot) := by
      intro some_disk outside
      constructor
      · rintro (long | ⟨inside, _⟩ | ⟨looked, _⟩)
        · exact long
        · exact absurd inside outside
        · exact absurd looked.root outside
      · exact .root
    rw [stops_iff root, stops_iff (mt directory.1 root), same.sameDirectories.tooLong_iff]

end

end DiagnosticRepair.Component
