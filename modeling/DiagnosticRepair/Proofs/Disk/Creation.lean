import DiagnosticRepair.Proofs.Disk.Change

namespace DiagnosticRepair

namespace Path

theorem append_below_of_isAbsolute {path : Path} (h : path.isAbsolute = true) (base : Path) :
    base ++ path.below base = path := by
  unfold below relativeTo?
  split
  · rename_i begins
    rw [Bool.and_eq_true, decide_eq_true_eq, List.isPrefixOf_iff_prefix] at begins
    obtain ⟨rest, steps⟩ := begins.2
    have drop : path.steps.drop base.steps.length = rest := by rw [← steps, List.drop_left]
    rw [Option.getD_some, append_here, drop, steps, ← begins.1]
  · exact append_of_isAbsolute base path h

theorem below_below_of_isAbsolute {path base : Path} (h : (path.below base).isAbsolute = true) :
    (path.below base).below base = path.below base := by
  cases relative : path.relativeTo? base with
  | none =>
      have whole : path.below base = path := by rw [below, relative, Option.getD_none]
      rw [whole, whole]
  | some rest =>
      rw [below, relative, Option.getD_some] at h
      unfold relativeTo? at relative
      split at relative
      · cases relative
        cases h
      · cases relative

theorem append_assoc (first second third : Path) :
    (first ++ second) ++ third = first ++ (second ++ third) := by
  show append (append first second) third = append first (append second third)
  unfold append
  cases absolute : third.isAbsolute <;> cases absolute' : second.isAbsolute <;>
    simp_all [isAbsolute]

theorem child_append (base path : Path) (name : FileName) :
    (base ++ path).child name = base ++ path.child name := by
  show (append base path).child name = append base (path.child name)
  have anchor : (path.child name).isAbsolute = path.isAbsolute := rfl
  unfold append
  rw [anchor]
  split
  · rfl
  · simp [child]

theorem append_below_append (base path : Path) : base ++ (base ++ path).below base = base ++ path := by
  cases absolute : path.isAbsolute with
  | true =>
      rw [append_of_isAbsolute base path absolute, append_below_of_isAbsolute absolute]
  | false =>
      have joined : base ++ path = ⟨base.anchor, base.steps ++ path.steps⟩ := by
        show append base path = _
        rw [append, absolute]
        rfl
      exact append_below _ base path.steps joined

theorem isAbsolute_append {path : Path} (h : path.isAbsolute = true) (other : Path) :
    (path ++ other).isAbsolute = true := by
  show (append path other).isAbsolute = true
  unfold append
  split
  · assumption
  · exact h

theorem hasNul_append {other : Path} (relative : other.isAbsolute = false) (path : Path) :
    (path ++ other).hasNul = (path.hasNul || other.hasNul) := by
  show (append path other).hasNul = _
  simp [append, relative, hasNul]

theorem hasNul_child (path : Path) (name : FileName) :
    (path.child name).hasNul = (path.hasNul || name.text.contains '\x00') := by
  simp [hasNul, child, Step.text]

theorem parent_child (path : Path) (name : FileName) : (path.child name).parent = path := by
  simp [parent, child]

end Path

namespace Disk

variable {disk other third : Disk} {path : Path} {name : FileName} {location : Location}

theorem SameDirectories.nodeAt?_eq_directory_iff (h : SameDirectories disk other) :
    other.nodeAt? path = some .directory ↔ disk.nodeAt? path = some .directory := by
  rw [nodeAt?_eq_some_iff, nodeAt?_eq_some_iff]
  simp only [h.place?_eq, h.directory]

theorem locate_child (inside : disk.nodeAt? path = some .directory)
    (short : ¬ disk.TooLong (path.child name)) (noNul : name.text.contains '\x00' = false) :
    ∃ location, disk.place? path = some location ∧
      disk.place? (path.child name) = some (location ++ [name]) ∧ name.fits = true := by
  obtain ⟨location, leads, there⟩ := nodeAt?_eq_some_iff.1 inside
  obtain ⟨noNul_path, located⟩ := place?_eq_some_iff.1 leads
  have noNul_child : (path.child name).hasNul = false := by
    rw [Path.hasNul_child, noNul_path, noNul]
    rfl
  have walked : disk.walk (if path.isAbsolute then [] else disk.here) path.steps = .ok location := by
    unfold locate at located
    split at located
    · cases located
    · exact located
  have last : disk.walk (if path.isAbsolute then [] else disk.here) (path.child name).steps =
      if FileName.limit < (Utf8.encode name.text).length then .error .nameTooLong
      else .ok (location ++ [name]) := by
    show disk.walk _ (path.steps ++ [.down name]) = _
    rw [walk_append, walked]
    exact walk_down there
  have refused : disk.locate (path.child name) ≠ .error .nameTooLong :=
    fun long => short ⟨noNul_child, long⟩
  have anchor : (path.child name).isAbsolute = path.isAbsolute := rfl
  unfold locate at refused
  rw [anchor, last] at refused
  split at refused
  · exact absurd rfl refused
  · rename_i whole
    split at refused
    · exact absurd rfl refused
    · rename_i fits
      refine ⟨location, leads, place?_eq_some_iff.2 ⟨noNul_child, ?_⟩, ?_⟩
      · unfold locate
        rw [anchor, last, if_neg whole, if_neg fits]
      · unfold FileName.fits
        rw [noNul, decide_eq_true (Nat.le_of_not_lt fits)]
        rfl

structure Gains (disk other : Disk) : Prop where
  directories : SameDirectories disk other
  stays : ∀ {location node}, disk.find? location = some node → other.find? location = some node

namespace Gains

theorem refl (disk : Disk) : Gains disk disk :=
  ⟨.refl disk, id⟩

theorem trans (h : Gains disk other) (h' : Gains other third) : Gains disk third :=
  ⟨h.directories.trans h'.directories, fun found => h'.stays (h.stays found)⟩

theorem nodeAt? {node : Node} (h : Gains disk other) (found : disk.nodeAt? path = some node) :
    other.nodeAt? path = some node := by
  obtain ⟨location, leads, there⟩ := nodeAt?_eq_some_iff.1 found
  exact nodeAt?_eq_some_iff.2 ⟨location, (h.directories.place?_eq path).trans leads, h.stays there⟩

end Gains

structure Created (disk : Disk) (path : Path) (bytes : Bytes) (other : Disk) : Prop where
  directories : SameDirectories disk other
  free : disk.nodeAt? path = none
  leads : ∃ location, disk.place? path = some location
  node : ∀ location, other.find? location =
    if disk.place? path = some location then some (.file bytes) else disk.find? location

theorem Created.gains {bytes : Bytes} (h : Created disk path bytes other) : Gains disk other := by
  refine ⟨h.directories, fun {location node} found => ?_⟩
  rw [h.node location, if_neg]
  · exact found
  · intro leads
    have free := h.free
    rw [Disk.nodeAt?, leads, Option.bind_some, found] at free
    cases free

theorem write_new (inside : disk.nodeAt? path = some .directory)
    (short : ¬ disk.TooLong (path.child name)) (noNul : name.text.contains '\x00' = false)
    (free : disk.nodeAt? (path.child name) = none) (bytes : Bytes) :
    ∃ written, disk.write (path.child name) bytes = .ok written ∧
      Created disk (path.child name) bytes written := by
  obtain ⟨location, leads, leads_child, fits⟩ := locate_child inside short noNul
  obtain ⟨noNul_child, located⟩ := place?_eq_some_iff.1 leads_child
  have nothing : disk.find? (location ++ [name]) = none := by
    rwa [Disk.nodeAt?, leads_child] at free
  have no_directory : disk.find? (location ++ [name]) ≠ some .directory := by simp [nothing]
  have above : disk.find? location = some .directory := by
    rwa [Disk.nodeAt?, leads] at inside
  refine ⟨disk.putAt (location ++ [name]) (.file bytes), ?_,
    sameDirectories_putAt_file no_directory bytes, free, ⟨_, leads_child⟩, fun place => ?_⟩
  · unfold write
    rw [noNul_child, located]
    simp [nothing]
  · rw [find?_putAt above no_directory fits, leads_child]
    simp only [Option.some.injEq, eq_comm]

theorem makeDirectories_of_directory (inside : disk.nodeAt? path = some .directory) :
    disk.makeDirectories path = (.ok (), disk) := by
  obtain ⟨location, leads, there⟩ := nodeAt?_eq_some_iff.1 inside
  obtain ⟨noNul, located⟩ := place?_eq_some_iff.1 leads
  have again : (⟨path.anchor, path.steps.reverse.reverse⟩ : Path) = path := by
    rw [List.reverse_reverse]
  have refused : disk.makeDirectory path = .error (.refused .alreadyExists path) := by
    unfold makeDirectory
    rw [noNul, located]
    simp [there]
  have excused : disk.unlessDirectory path (.refused .alreadyExists path) = .ok () := by
    simp [unlessDirectory, isDirectory_eq_true_iff.2 inside]
  unfold makeDirectories makeDirectoriesFrom
  simp only [again, refused, excused]
  split <;> simp_all

end Disk

end DiagnosticRepair
