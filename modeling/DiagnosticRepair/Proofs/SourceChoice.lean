import DiagnosticRepair.Proofs.Disk.Ordering
import DiagnosticRepair.Proofs.Patch.Regeneration
import DiagnosticRepair.Proofs.Text.Occurrence
import Mathlib.Data.List.Forall2

namespace DiagnosticRepair

namespace Asking

variable {ε α β : Type}

theorem exists_given {ask : α → Except ε (Option β)} {items : List α} {answers : List (Option β)}
    (asked : items.mapM ask = .ok answers) : ∃ given, given.Sublist items ∧
      List.Forall₂ (fun item found => ask item = .ok (some found)) given (answers.filterMap id) ∧
      ∀ item ∈ items, item ∈ given ∨ ask item = .ok none := by
  induction items generalizing answers with
  | nil =>
      cases asked
      exact ⟨[], .refl _, .nil, by simp⟩
  | cons item rest ih =>
      rw [List.mapM_cons] at asked
      cases first : ask item with
      | error e =>
          rw [first] at asked
          cases asked
      | ok answer =>
          cases others : rest.mapM ask with
          | error e =>
              rw [first, others] at asked
              cases asked
          | ok more =>
              rw [first, others] at asked
              cases asked
              obtain ⟨given, inside, pairs, all⟩ := ih others
              cases answer with
              | none =>
                  exact ⟨given, inside.cons item, pairs, List.forall_mem_cons.2 ⟨.inr first, all⟩⟩
              | some found =>
                  refine ⟨item :: given, inside.cons_cons item, .cons first pairs,
                    List.forall_mem_cons.2 ⟨.inl (List.mem_cons_self ..), fun other member => ?_⟩⟩
                  exact (all other member).imp_left (List.mem_cons_of_mem _)

end Asking

namespace Pairing

variable {α β : Type} {R : α → β → Prop} {left : List α} {right : List β}

theorem exists_right (pairs : List.Forall₂ R left right) {a : α} (member : a ∈ left) :
    ∃ b ∈ right, R a b := by
  induction pairs with
  | nil => cases member
  | @cons first second _ _ related _ ih =>
      rcases List.mem_cons.1 member with rfl | later
      · exact ⟨second, List.mem_cons_self .., related⟩
      · obtain ⟨b, inside, related⟩ := ih later
        exact ⟨b, List.mem_cons_of_mem _ inside, related⟩

theorem exists_left (pairs : List.Forall₂ R left right) {b : β} (member : b ∈ right) :
    ∃ a ∈ left, R a b :=
  exists_right (R := flip R) pairs.flip member

end Pairing

theorem Path.child_inj {path : Path} {name other : FileName} (same : path.child name = path.child other) :
    name = other := by
  simpa [Path.child] using same

namespace Component

variable {disk : Disk} {directory componentsRoot : Path} {name file : FileName} {title : Text}
  {counts counts' : FileName → Prop} {component : Component}

def IsNamed (title : Text) (file : FileName) : Prop :=
  Text.lower (FileName.stemAndSuffix file.text).1 = Text.lower title

/-- The first file that counts and is named by the title, else the first one that counts. -/
inductive Chosen (counts : FileName → Prop) (title : Text) (file : FileName) : Prop
  | named (counted : counts file) (same : IsNamed title file)
      (least : ∀ other, counts other → IsNamed title other → ¬ Text.Before other.text file.text)
  | first (counted : counts file) (none : ∀ other, counts other → ¬ IsNamed title other)
      (least : ∀ other, counts other → ¬ Text.Before other.text file.text)

theorem Chosen.counted (chosen : Chosen counts title file) : counts file := by
  cases chosen with
  | named counted same least => exact counted
  | first counted none least => exact counted

theorem Chosen.unique {other : FileName} (chosen : Chosen counts title file)
    (chosen' : Chosen counts title other) : file = other := by
  refine FileName.ext_text ?_
  rcases chosen with ⟨counted, same, least⟩ | ⟨counted, none, least⟩
  · rcases chosen' with ⟨counted', same', least'⟩ | ⟨_, none', _⟩
    · exact Text.eq_of_not_before (least' file counted same) (least other counted' same')
    · exact absurd same (none' file counted)
  · rcases chosen' with ⟨counted', same', _⟩ | ⟨counted', _, least'⟩
    · exact absurd same' (none other counted')
    · exact Text.eq_of_not_before (least' file counted) (least other counted')

theorem Chosen.of_counts (chosen : Chosen counts' title file) (counted : counts file)
    (fewer : ∀ other, counts other → counts' other) : Chosen counts title file := by
  rcases chosen with ⟨_, same, least⟩ | ⟨_, none, least⟩
  · exact .named counted same fun other own => least other (fewer other own)
  · exact .first counted (fun other own => none other (fewer other own))
      fun other own => least other (fewer other own)

theorem not_before_head? {files : List FileName}
    (increasing : files.Pairwise fun first second => Text.Before first.text second.text)
    (first : files.head? = some file) {other : FileName} (member : other ∈ files) :
    ¬ Text.Before other.text file.text := by
  obtain ⟨rest, rfl⟩ := List.head?_eq_some_iff.1 first
  rcases List.mem_cons.1 member with rfl | later
  · exact fun ahead => ahead.ne rfl
  · exact (List.rel_of_pairwise_cons increasing later).asymm

theorem chosen_of_increasing {files : List FileName}
    (increasing : files.Pairwise fun first second => Text.Before first.text second.text)
    (all : ∀ file, counts file ↔ file ∈ files)
    (chosen : (files.find? fun file =>
      Text.lower (FileName.stemAndSuffix file.text).1 = Text.lower title).or files.head? = some file) :
    Chosen counts title file := by
  rcases Option.or_eq_some_iff.1 chosen with found | ⟨none, first⟩
  · have same : IsNamed title file := by simpa [IsNamed] using List.find?_some found
    refine .named ((all file).2 (List.mem_of_find?_eq_some found)) same fun other counted same => ?_
    rw [← List.head?_filter] at found
    exact not_before_head? (increasing.filter _) found
      (List.mem_filter.2 ⟨(all other).1 counted, decide_eq_true same⟩)
  · refine .first ((all file).2 (List.mem_of_head? first)) (fun other counted same => ?_)
      fun other counted => not_before_head? increasing first ((all other).1 counted)
    exact List.find?_eq_none.1 none other ((all other).1 counted) (decide_eq_true same)

def holdsFile (disk : Disk) (directory : Path) (file : FileName) : Bool :=
  (disk.nodeAt? (directory.child file)).any (· ≠ .directory)

theorem isFile_iff_holdsFile :
    disk.isFile (directory.child file) = .ok true ↔ holdsFile disk directory file = true := by
  rw [Disk.isFile, Disk.test_eq_true_iff, holdsFile, Option.any_eq_true]

def filesIn (disk : Disk) (directory : Path) : List FileName :=
  (disk.namesIn directory).filter (holdsFile disk directory)

theorem mem_filesIn_iff (inside : disk.nodeAt? directory = some .directory) :
    file ∈ filesIn disk directory ↔ disk.isFile (directory.child file) = .ok true := by
  rw [filesIn, List.mem_filter, isFile_iff_holdsFile]
  refine and_iff_right_of_imp fun holds => ?_
  exact Disk.mem_namesIn_of_isFile inside (isFile_iff_holdsFile.2 holds)

theorem nodup_filesIn (disk : Disk) (directory : Path) : (filesIn disk directory).Nodup :=
  (disk.nodup_namesIn directory).filter _

theorem chosen_of_chooseSource? (inside : disk.nodeAt? directory = some .directory)
    (chosen : chooseSource? (filesIn disk directory) title = some file) :
    Chosen (IsSource disk directory) title file := by
  refine chosen_of_increasing (FileName.increasing_sortBy ((nodup_filesIn disk directory).filter _))
    (fun file => ?_) chosen
  rw [mem_sortBy, List.mem_filter]
  exact and_congr_left fun _ => (mem_filesIn_iff inside).symm

def IsTsx (disk : Disk) (directory : Path) (file : FileName) : Prop :=
  disk.isFile (directory.child file) = .ok true ∧
    (FileName.stemAndSuffix file.text).2 = ".tsx".toList

theorem isSource_iff : IsSource disk directory file ↔
    IsTsx disk directory file ∧ ¬ "test".toList <:+: file.text := by
  rw [IsSource, IsTsx, isSourceName, Bool.and_eq_true, decide_eq_true_eq, Bool.not_eq_true',
    ← Bool.not_eq_true, Text.occursIn_iff_infix, and_assoc]

theorem exists_chosen_tsx (inside : disk.nodeAt? directory = some .directory)
    (some_tsx : ∃ file, IsTsx disk directory file) (title : Text) :
    ∃ file, Chosen (IsTsx disk directory) title file := by
  let files := sortBy FileName.le ((filesIn disk directory).filter fun file =>
    (FileName.stemAndSuffix file.text).2 = ".tsx".toList)
  have all : ∀ file, IsTsx disk directory file ↔ file ∈ files := by
    intro file
    rw [mem_sortBy, List.mem_filter, mem_filesIn_iff inside, decide_eq_true_eq, IsTsx]
  obtain ⟨tsx, held⟩ := some_tsx
  have some_file : files ≠ [] := List.ne_nil_of_mem ((all tsx).1 held)
  cases chosen : (files.find? fun file =>
      Text.lower (FileName.stemAndSuffix file.text).1 = Text.lower title).or files.head? with
  | none => exact absurd (List.head?_eq_none_iff.1 (Option.or_eq_none_iff.1 chosen).2) some_file
  | some file =>
      exact ⟨file, chosen_of_increasing
        (FileName.increasing_sortBy ((nodup_filesIn disk directory).filter _)) all chosen⟩

theorem eq_of_ofDirectory? (h : ofDirectory? disk directory (disk.namesIn directory) =
    .ok (some component)) : ∃ file,
      chooseSource? (filesIn disk directory) (nameOfDirectory directory.name) = some file ∧
      component = ⟨directory, directory.child file, nameOfDirectory directory.name,
        exportsDefault (sourceText disk (directory.child file))⟩ := by
  unfold ofDirectory? at h
  rcases hasTest_cases disk directory (disk.namesIn directory) with
    ⟨⟨e, refused⟩, _⟩ | ⟨found, _⟩ | ⟨none_found, all⟩
  · rw [refused] at h
    cases h
  · rw [found] at h
    cases h
  · have answers : ∀ file ∈ disk.namesIn directory, disk.isFile (directory.child file) =
        .ok (holdsFile disk directory file) :=
      fun file member => Disk.test_of_not_tooLong _ (all file member).2
    rw [none_found, Asking.filterM_of_answers answers] at h
    simp only [bind, Except.bind, pure, Except.pure, Bool.false_eq_true, if_false, Except.ok.injEq,
      Option.map_eq_some_iff] at h
    obtain ⟨file, chosen, rfl⟩ := h
    exact ⟨file, chosen, rfl⟩

structure WithoutTest (counts : FileName → Prop) (disk : Disk) (componentsRoot : Path)
    (name : FileName) : Prop where
  looked : LooksInto disk componentsRoot name
  untested : ∀ file, ¬ IsTest disk (componentsRoot.child name) file
  some_source : ∃ file, counts file

theorem lacks_iff_withoutTest : Lacks disk componentsRoot name ↔
    WithoutTest (IsSource disk (componentsRoot.child name)) disk componentsRoot name := by
  constructor
  · rintro ⟨looked, untested, file, _, source⟩
    exact ⟨looked, fun file test =>
      untested file (Disk.mem_namesIn_of_isFile looked.directory test.1) test, file, source⟩
  · rintro ⟨looked, untested, file, source⟩
    exact ⟨looked, fun file _ => untested file, file,
      Disk.mem_namesIn_of_isFile looked.directory source.1, source⟩

inductive Describes (counts : FileName → Prop) (disk : Disk) (componentsRoot : Path)
    (name : FileName) : Component → Prop
  | mk {file : FileName} (chosen : Chosen counts (nameOfDirectory name.text) file) :
      Describes counts disk componentsRoot name
        ⟨componentsRoot.child name, (componentsRoot.child name).child file,
          nameOfDirectory name.text,
          exportsDefault (sourceText disk ((componentsRoot.child name).child file))⟩

theorem Describes.unique {other : Component}
    (describes : Describes counts disk componentsRoot name component)
    (describes' : Describes counts disk componentsRoot name other) : component = other := by
  obtain ⟨chosen⟩ := describes
  obtain ⟨chosen'⟩ := describes'
  rw [chosen.unique chosen']

theorem Describes.exists_chosen (describes : Describes counts disk componentsRoot name component) :
    ∃ file, Chosen counts (nameOfDirectory name.text) file ∧
      component.directory = componentsRoot.child name ∧
      component.source = (componentsRoot.child name).child file := by
  obtain ⟨chosen⟩ := describes
  exact ⟨_, chosen, rfl, rfl⟩

theorem describes_of_ofEntry? (root : disk.nodeAt? componentsRoot = some .directory)
    (listed : name ∈ disk.namesIn componentsRoot)
    (found : ofEntry? disk componentsRoot name = .ok (some component)) :
    Describes (IsSource disk (componentsRoot.child name)) disk componentsRoot name component := by
  obtain ⟨_, lacks⟩ := lacks_of_ofEntry? root listed found
  have inside := lacks.looked.directory
  have titled : (componentsRoot.child name).name = name.text := by
    simp [Path.name, Path.child, Step.text]
  unfold ofEntry? at found
  simp only [Disk.isDirectory_eq_true_iff.2 inside, bind, Except.bind, lacks.looked.wanted,
    Bool.not_true, Bool.or_self, Bool.false_eq_true, if_false] at found
  obtain ⟨file, chosen, rfl⟩ := eq_of_ofDirectory? found
  rw [titled] at chosen ⊢
  exact .mk (chosen_of_chooseSource? inside chosen)

/-- The components are those of the directories without a test, in order of name. -/
def Lists (counts : Path → FileName → Prop) (disk : Disk) (componentsRoot : Path)
    (components : List Component) : Prop :=
  ∃ names : List FileName, (names.Pairwise fun first second => Text.Before first.text second.text) ∧
    (∀ name, name ∈ names ↔
      WithoutTest (counts (componentsRoot.child name)) disk componentsRoot name) ∧
    List.Forall₂ (fun name => Describes (counts (componentsRoot.child name)) disk componentsRoot name)
      names components

theorem Lists.unique {counts : Path → FileName → Prop} {components components' : List Component}
    (lists : Lists counts disk componentsRoot components)
    (lists' : Lists counts disk componentsRoot components') : components = components' := by
  obtain ⟨names, increasing, all, pairs⟩ := lists
  obtain ⟨names', increasing', all', pairs'⟩ := lists'
  obtain rfl : names = names' :=
    eq_of_pairwise Text.Before.asymm increasing increasing' fun name => (all name).trans (all' name).symm
  exact List.right_unique_forall₂' (fun _ _ _ first second => first.unique second) pairs pairs'

theorem lists_of_answers {given : List (Option Component)}
    (root : disk.nodeAt? componentsRoot = some .directory)
    (asked : answers disk componentsRoot = .ok given) :
    Lists (IsSource disk) disk componentsRoot (given.filterMap id) := by
  obtain ⟨names, inside, pairs, others⟩ := Asking.exists_given asked
  have listed : ∀ name ∈ names, name ∈ disk.namesIn componentsRoot :=
    fun name member => mem_sortBy.1 (inside.subset member)
  have increasing := FileName.increasing_sortBy (disk.nodup_namesIn componentsRoot)
  refine ⟨names, increasing.sublist inside, fun name => ?_, ?_⟩
  · rw [← lacks_iff_withoutTest]
    constructor
    · intro member
      obtain ⟨component, _, found⟩ := Pairing.exists_right pairs member
      obtain ⟨_, lacks⟩ := lacks_of_ofEntry? root (listed name member) found
      exact lacks
    · intro lacks
      refine (others name (mem_sortBy.2 lacks.looked.listed)).resolve_right fun none_found => ?_
      obtain ⟨component, given, _⟩ := lacks.exists_component none_found
      cases given
  · exact ((List.forall₂_and_left _ _).2 ⟨listed, pairs⟩).imp fun name component found =>
      describes_of_ofEntry? root found.1 found.2

theorem lists_of_untested {components : List Component}
    (h : untested disk componentsRoot = .ok components) :
    Lists (IsSource disk) disk componentsRoot components := by
  by_cases root : disk.nodeAt? componentsRoot = some .directory
  · rw [untested_of_directory root] at h
    cases asked : answers disk componentsRoot with
    | error e =>
        rw [asked] at h
        cases h
    | ok given =>
        rw [asked] at h
        obtain rfl := Except.ok.inj h
        exact lists_of_answers root asked
  · obtain rfl := untested_of_no_directory root h
    refine ⟨[], .nil, fun name => iff_of_false List.not_mem_nil fun without => ?_, .nil⟩
    exact root without.looked.root

theorem untested_eq_ok_iff {components : List Component} :
    untested disk componentsRoot = .ok components ↔
      ¬ SearchStops disk componentsRoot ∧ Lists (IsSource disk) disk componentsRoot components := by
  constructor
  · exact fun ran => ⟨untested_returns_iff.1 ⟨components, ran⟩, lists_of_untested ran⟩
  · rintro ⟨goes, lists⟩
    obtain ⟨components', ran⟩ := untested_returns_iff.2 goes
    rw [ran, (lists_of_untested ran).unique lists]

/-- No choice among the `.tsx` files of a directory without a test has `test` in its name. -/
def NonePassedOver (disk : Disk) (componentsRoot : Path) : Prop :=
  ∀ name, WithoutTest (IsTsx disk (componentsRoot.child name)) disk componentsRoot name →
    ∀ file, Chosen (IsTsx disk (componentsRoot.child name)) (nameOfDirectory name.text) file →
      ¬ "test".toList <:+: file.text

theorem WithoutTest.tsx_of_source
    (without : WithoutTest (IsSource disk (componentsRoot.child name)) disk componentsRoot name) :
    WithoutTest (IsTsx disk (componentsRoot.child name)) disk componentsRoot name := by
  obtain ⟨looked, untested, file, source⟩ := without
  exact ⟨looked, untested, file, (isSource_iff.1 source).1⟩

theorem NonePassedOver.exists_chosen (calm : NonePassedOver disk componentsRoot)
    (without : WithoutTest (IsTsx disk (componentsRoot.child name)) disk componentsRoot name) :
    ∃ file, Chosen (IsTsx disk (componentsRoot.child name)) (nameOfDirectory name.text) file ∧
      Chosen (IsSource disk (componentsRoot.child name)) (nameOfDirectory name.text) file := by
  obtain ⟨file, chosen⟩ := exists_chosen_tsx without.looked.directory without.some_source
    (nameOfDirectory name.text)
  have source := isSource_iff.2 ⟨chosen.counted, calm name without file chosen⟩
  exact ⟨file, chosen, chosen.of_counts source fun other own => (isSource_iff.1 own).1⟩

theorem lists_tsx_of_source {components : List Component}
    (calm : NonePassedOver disk componentsRoot)
    (lists : Lists (IsSource disk) disk componentsRoot components) :
    Lists (IsTsx disk) disk componentsRoot components := by
  obtain ⟨names, increasing, all, pairs⟩ := lists
  have without : ∀ name ∈ names,
      WithoutTest (IsTsx disk (componentsRoot.child name)) disk componentsRoot name :=
    fun name member => ((all name).1 member).tsx_of_source
  refine ⟨names, increasing, fun name => ⟨without name, fun given => ?_⟩, ?_⟩
  · obtain ⟨file, _, chosen⟩ := calm.exists_chosen given
    exact (all name).2 ⟨given.looked, given.untested, file, chosen.counted⟩
  · refine ((List.forall₂_and_left _ _).2 ⟨without, pairs⟩).imp fun name component found => ?_
    obtain ⟨file, tsx, source⟩ := calm.exists_chosen found.1
    exact found.2.unique (.mk source) ▸ .mk tsx

theorem nonePassedOver_of_lists {components : List Component}
    (sources : Lists (IsSource disk) disk componentsRoot components)
    (lists : Lists (IsTsx disk) disk componentsRoot components) :
    NonePassedOver disk componentsRoot := by
  obtain ⟨names, _, _, pairs⟩ := sources
  obtain ⟨names', _, all', pairs'⟩ := lists
  intro name without file chosen
  obtain ⟨component, member, tsx⟩ := Pairing.exists_right pairs' ((all' name).2 without)
  obtain ⟨name', _, source⟩ := Pairing.exists_left pairs member
  obtain ⟨file', chosen_tsx, directory, told⟩ := tsx.exists_chosen
  obtain ⟨file'', chosen_source, directory', told'⟩ := source.exists_chosen
  obtain rfl := Path.child_inj (directory.symm.trans directory')
  obtain rfl := Path.child_inj (told.symm.trans told')
  obtain rfl := chosen_tsx.unique chosen
  exact (isSource_iff.1 chosen_source.counted).2

theorem untested_lists_iff (disk : Disk) (componentsRoot : Path) :
    (∀ components, untested disk componentsRoot = .ok components ↔
      ¬ SearchStops disk componentsRoot ∧ Lists (IsSource disk) disk componentsRoot components) ∧
    ((∃ components, untested disk componentsRoot = .ok components ∧
        Lists (IsTsx disk) disk componentsRoot components) ↔
      ¬ SearchStops disk componentsRoot ∧ NonePassedOver disk componentsRoot) := by
  refine ⟨fun components => untested_eq_ok_iff, ?_⟩
  constructor
  · rintro ⟨components, ran, lists⟩
    obtain ⟨goes, sources⟩ := untested_eq_ok_iff.1 ran
    exact ⟨goes, nonePassedOver_of_lists sources lists⟩
  · rintro ⟨goes, calm⟩
    obtain ⟨components, ran⟩ := untested_returns_iff.2 goes
    exact ⟨components, ran, lists_tsx_of_source calm (lists_of_untested ran)⟩

def latest : FileName := ⟨"latest", by decide⟩

def latestSource : FileName := ⟨"Latest.tsx", by decide⟩

def latestDisk : Disk :=
  ((Disk.empty []).put [] latest .directory).put [latest] latestSource
    (.file (Utf8.encode "export default function X() \x7b\x7d\n".toList))

theorem latest_passed_over :
    WithoutTest (IsTsx latestDisk (Path.child ⟨.root, []⟩ latest)) latestDisk ⟨.root, []⟩ latest ∧
      (untested latestDisk ⟨.root, []⟩).toOption.map List.length = some 0 := by
  have inside : latestDisk.nodeAt? (Path.child ⟨.root, []⟩ latest) = some .directory := by
    decide +kernel
  have held : holdsFile latestDisk (Path.child ⟨.root, []⟩ latest) latestSource = true := by
    decide +kernel
  have looked : LooksInto latestDisk ⟨.root, []⟩ latest :=
    ⟨rfl, by decide +kernel, inside, by decide +kernel⟩
  refine ⟨⟨looked, ?_, latestSource, isFile_iff_holdsFile.2 held, by decide +kernel⟩, ?_⟩
  · rintro file ⟨isFile, test⟩
    have none_listed : ∀ file ∈ latestDisk.namesIn (Path.child ⟨.root, []⟩ latest),
        TestFile.isTestName file.text = false := by decide +kernel
    rw [none_listed file (Disk.mem_namesIn_of_isFile inside isFile)] at test
    cases test
  · decide +kernel

end Component

end DiagnosticRepair
