import DiagnosticRepair.Proofs.Component

namespace DiagnosticRepair

namespace Disk

variable {disk other : Disk} {path : Path} {name : FileName} {location : Location}

theorem exists_above_of_child (leads : disk.place? (path.child name) = some location) :
    ∃ above, location = above ++ [name] := by
  have located := (place?_eq_some_iff.1 leads).2
  unfold locate at located
  split at located
  · cases located
  · rw [show (path.child name).steps = path.steps ++ [.down name] from rfl, walk_append] at located
    cases walked : disk.walk (if (path.child name).isAbsolute then [] else disk.here) path.steps with
    | error refusal =>
        rw [walked] at located
        cases located
    | ok above =>
        rw [walked] at located
        by_cases inside : disk.find? above = some .directory
        · have last : disk.walk above [.down name] = .ok location := located
          rw [walk_down inside] at last
          split at last
          · cases last
          · exact ⟨above, (Except.ok.inj last).symm⟩
        · have blocked : Blocked (disk.walk above [.down name]) := walk_blocked inside
          rcases blocked with blocked | blocked
          · cases blocked.symm.trans located
          · cases blocked.symm.trans located

end Disk

namespace Component

variable {disk other : Disk} {directory componentsRoot : Path} {entries : List FileName}
  {name : FileName}

theorem mem_of_chooseSource? {files : List FileName} {name : Text} {file : FileName}
    (chosen : chooseSource? files name = some file) : file ∈ files := by
  unfold chooseSource? at chosen
  rw [Option.or_eq_some_iff] at chosen
  rcases chosen with found | ⟨_, first⟩
  · exact (List.mem_filter.1 (mem_sortBy.1 (List.mem_of_find?_eq_some found))).1
  · exact (List.mem_filter.1 (mem_sortBy.1 (List.mem_of_head? first))).1

structure OnlyTestsChanged (disk other : Disk) : Prop where
  same : disk.SameButTexts other
  kept : ∀ (above : Location) (name : FileName), TestFile.isTestName name.text = false →
    other.find? (above ++ [name]) = disk.find? (above ++ [name])

theorem OnlyTestsChanged.text?_child (changed : OnlyTestsChanged disk other) {file : FileName}
    (noTest : TestFile.isTestName file.text = false) :
    other.text? (directory.child file) = disk.text? (directory.child file) := by
  rw [Disk.text?_eq_bind, Disk.text?_eq_bind, Disk.nodeAt?, Disk.nodeAt?, changed.same.place?_eq]
  cases leads : disk.place? (directory.child file) with
  | none => rfl
  | some location =>
      obtain ⟨above, rfl⟩ := Disk.exists_above_of_child leads
      rw [Option.bind_some, Option.bind_some, changed.kept above file noTest]

theorem ofDirectory?_congr (changed : OnlyTestsChanged disk other) (directory : Path)
    (entries : List FileName) :
    ofDirectory? other directory entries = ofDirectory? disk directory entries := by
  have isFile : other.isFile = disk.isFile := funext fun _ => changed.same.isFile_eq
  unfold ofDirectory?
  have tests : hasTest other directory entries = hasTest disk directory entries := by
    unfold hasTest
    rw [isFile]
  rw [tests, isFile]
  rcases hasTest_cases disk directory entries with
    ⟨⟨e, refused⟩, _⟩ | ⟨found, _, _⟩ | ⟨none_found, all⟩
  · rw [refused]
    rfl
  · rw [found]
    rfl
  · have answers : ∀ file ∈ entries, disk.isFile (directory.child file) =
        .ok ((disk.nodeAt? (directory.child file)).any (· ≠ .directory)) :=
      fun file member => Disk.test_of_not_tooLong _ (all file member).2
    rw [none_found, Asking.filterM_of_answers answers]
    simp only [bind, Except.bind, pure, Except.pure, Bool.false_eq_true, if_false]
    cases chosen : chooseSource? (entries.filter fun file =>
        (disk.nodeAt? (directory.child file)).any (· ≠ .directory)) (nameOfDirectory directory.name) with
    | none => rfl
    | some source =>
        obtain ⟨listed, is_file⟩ := List.mem_filter.1 (mem_of_chooseSource? chosen)
        have no_test : TestFile.isTestName source.text = false := by
          have apart := (all source listed).1
          rw [IsTest, answers source listed, is_file, not_and, Bool.not_eq_true] at apart
          exact apart rfl
        rw [Option.map_some, Option.map_some, sourceText, sourceText, changed.text?_child no_test]

theorem ofEntry?_congr (changed : OnlyTestsChanged disk other) (componentsRoot : Path)
    (name : FileName) : ofEntry? other componentsRoot name = ofEntry? disk componentsRoot name := by
  unfold ofEntry?
  simp only [changed.same.isDirectory_eq, changed.same.namesIn_eq, ofDirectory?_congr changed]

theorem untested_congr (changed : OnlyTestsChanged disk other) (componentsRoot : Path) :
    untested other componentsRoot = untested disk componentsRoot := by
  have found : ofEntry? other componentsRoot = ofEntry? disk componentsRoot :=
    funext (ofEntry?_congr changed componentsRoot)
  unfold untested
  rw [changed.same.isDirectory_eq, changed.same.namesIn_eq, found]

end Component

end DiagnosticRepair
