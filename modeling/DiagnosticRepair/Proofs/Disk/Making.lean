import DiagnosticRepair.Proofs.Disk.Change

namespace DiagnosticRepair.Disk

variable {disk other third : Disk} {path : Path} {location here : Location} {bytes : Bytes}

def fileAt? (disk : Disk) (location : Location) : Option Bytes :=
  match disk.find? location with
  | some (.file bytes) => some bytes
  | _ => none

theorem fileAt?_eq_some_iff :
    disk.fileAt? location = some bytes ↔ disk.find? location = some (.file bytes) := by
  unfold fileAt?
  split
  · rename_i found
    simp [found]
  · rename_i other
    simp only [reduceCtorEq, false_iff]
    exact other bytes

theorem inside_of_walk {step : Step} {rest : List Step}
    (walked : disk.walk here (step :: rest) = .ok location) : disk.find? here = some .directory := by
  by_cases inside : disk.find? here = some .directory
  · exact inside
  · have blocked : Blocked (disk.walk here (step :: rest)) := walk_blocked inside
    rw [walked] at blocked
    rcases blocked with blocked | blocked <;> cases blocked

structure KeepsDirectories (disk other : Disk) : Prop where
  here : other.here = disk.here
  directory : ∀ {location}, disk.find? location = some .directory →
    other.find? location = some .directory

namespace KeepsDirectories

theorem refl (disk : Disk) : KeepsDirectories disk disk :=
  ⟨rfl, id⟩

theorem trans (h : KeepsDirectories disk other) (h' : KeepsDirectories other third) :
    KeepsDirectories disk third :=
  ⟨h'.here.trans h.here, fun stands => h'.directory (h.directory stands)⟩

theorem walk (h : KeepsDirectories disk other) {steps : List Step} :
    ∀ {here : Location}, disk.walk here steps = .ok location → other.walk here steps = .ok location := by
  induction steps with
  | nil => exact id
  | cons step rest ih =>
      intro here walked
      have inside := inside_of_walk walked
      cases step with
      | up =>
          rw [walk_up inside] at walked
          rw [walk_up (h.directory inside)]
          exact ih walked
      | down name =>
          rw [walk_down inside] at walked
          rw [walk_down (h.directory inside)]
          split at walked
          · cases walked
          · rename_i fits
            rw [if_neg fits]
            exact ih walked

theorem place? (h : KeepsDirectories disk other) (leads : disk.place? path = some location) :
    other.place? path = some location := by
  obtain ⟨noNul, located⟩ := place?_eq_some_iff.1 leads
  refine place?_eq_some_iff.2 ⟨noNul, ?_⟩
  unfold locate at located ⊢
  rw [h.here]
  split at located
  · cases located
  · rename_i short
    rw [if_neg short]
    exact h.walk located

end KeepsDirectories

theorem SameDirectories.keeps (h : SameDirectories disk other) : KeepsDirectories disk other :=
  ⟨h.here, fun stands => (h.directory _).2 stands⟩

/-- Directories have been made where nothing stood, and that is all. -/
structure Deepens (disk other : Disk) : Prop where
  here : other.here = disk.here
  stays : ∀ {location node}, disk.find? location = some node → other.find? location = some node
  made : ∀ {location node}, other.find? location = some node →
    disk.find? location = some node ∨ node = .directory

namespace Deepens

theorem refl (disk : Disk) : Deepens disk disk :=
  ⟨rfl, id, .inl⟩

theorem trans (h : Deepens disk other) (h' : Deepens other third) : Deepens disk third :=
  ⟨h'.here.trans h.here, fun stands => h'.stays (h.stays stands),
    fun stands => (h'.made stands).elim h.made .inr⟩

theorem keeps (h : Deepens disk other) : KeepsDirectories disk other :=
  ⟨h.here, h.stays⟩

theorem fileAt? (h : Deepens disk other) (location : Location) :
    other.fileAt? location = disk.fileAt? location := by
  refine Option.ext fun bytes => ?_
  rw [fileAt?_eq_some_iff, fileAt?_eq_some_iff]
  refine ⟨fun stands => ?_, h.stays⟩
  rcases h.made stands with old | directory
  · exact old
  · cases directory

theorem of_putAt (free : disk.find? location = none) :
    Deepens disk (disk.putAt location .directory) := by
  have no_directory : disk.find? location ≠ some .directory := by simp [free]
  rcases putAt_cases no_directory .directory with nothing | put
  · rw [nothing]
    exact .refl disk
  · refine ⟨here_putAt .., fun {place node} stands => ?_, fun {place node} stands => ?_⟩
    · rw [put place, if_neg]
      · exact stands
      · rintro rfl
        rw [free] at stands
        cases stands
    · rw [put place] at stands
      split at stands
      · exact .inr (Option.some.inj stands).symm
      · exact .inl stands

end Deepens

theorem deepens_of_makeDirectory (made : disk.makeDirectory path = .ok other) :
    Deepens disk other := by
  unfold makeDirectory at made
  split at made
  · cases made
  · split at made
    · cases made
    · split at made
      · cases made
      · rename_i location _ free
        cases made
        exact .of_putAt (by simpa using free)

theorem deepens_makeDirectoriesFrom (anchor : Anchor) (steps : List Step) (disk : Disk) :
    Deepens disk (makeDirectoriesFrom anchor steps disk).2 := by
  fun_induction makeDirectoriesFrom anchor steps disk with
  | case1 steps disk path other made => exact deepens_of_makeDirectory made
  | case2 disk _ above _ middle _ path _ ran ih =>
      rw [ran] at ih
      exact ih
  | case3 disk _ above _ middle other path made _ ran ih =>
      rw [ran] at ih
      exact ih.trans (deepens_of_makeDirectory made)
  | case4 disk _ above _ middle _ path _ _ ran ih =>
      rw [ran] at ih
      exact ih
  | case5 disk _ above _ middle _ _ path _ _ ran ih =>
      rw [ran] at ih
      exact ih
  | case6 disk => exact .refl disk
  | case7 _ disk => exact .refl disk

theorem makeDirectory_ne_nulInPath (noNul : path.hasNul = false) :
    disk.makeDirectory path ≠ .error .nulInPath := by
  unfold makeDirectory
  rw [noNul, if_neg Bool.false_ne_true]
  cases disk.locate path with
  | error refusal => simp
  | ok location =>
      simp only
      split <;> simp

theorem unlessDirectory_ne_nulInPath {e : AccessError} (h : e ≠ .nulInPath) :
    disk.unlessDirectory path e ≠ .error .nulInPath := by
  cases e with
  | nulInPath => exact absurd rfl h
  | refused refusal place =>
      unfold unlessDirectory isDirectory
      by_cases long : disk.TooLong path
      · simp [test_of_tooLong _ long]
      · rw [test_of_not_tooLong _ long]
        cases (disk.nodeAt? path).any (· = .directory) <;> simp

theorem makeDirectoriesFrom_ne_nulInPath (anchor : Anchor) (steps : List Step) (disk : Disk)
    (noNul : (⟨anchor, steps.reverse⟩ : Path).hasNul = false) :
    (makeDirectoriesFrom anchor steps disk).1 ≠ .error .nulInPath := by
  fun_induction makeDirectoriesFrom anchor steps disk with
  | case1 => simp
  | case2 disk step above _ middle e path _ ran ih =>
      rw [ran] at ih
      refine ih ?_
      rw [Path.hasNul, List.reverse_cons, List.any_append, Bool.or_eq_false_iff] at noNul
      exact noNul.1
  | case3 => simp
  | case4 => simp
  | case5 _ _ _ _ middle e _ path refused =>
      refine unlessDirectory_ne_nulInPath ?_
      rintro rfl
      exact makeDirectory_ne_nulInPath noNul refused
  | case6 => simp
  | case7 _ disk path e refused =>
      refine unlessDirectory_ne_nulInPath ?_
      rintro rfl
      exact makeDirectory_ne_nulInPath noNul refused

theorem deepens_makeDirectories (disk : Disk) (path : Path) :
    Deepens disk (disk.makeDirectories path).2 :=
  deepens_makeDirectoriesFrom path.anchor path.steps.reverse disk

theorem makeDirectories_ne_nulInPath (noNul : path.hasNul = false) :
    (disk.makeDirectories path).1 ≠ .error .nulInPath :=
  makeDirectoriesFrom_ne_nulInPath path.anchor path.steps.reverse disk
    (by rwa [List.reverse_reverse])

theorem location_of_walk {steps : List Step} : ∀ {here : Location},
    disk.walk here steps = .ok location → here.follow steps = location := by
  induction steps with
  | nil => exact Except.ok.inj
  | cons step rest ih =>
      intro here walked
      have inside := inside_of_walk walked
      cases step with
      | up =>
          rw [walk_up inside] at walked
          exact ih walked
      | down name =>
          rw [walk_down inside] at walked
          split at walked
          · cases walked
          · exact ih walked

theorem location_of_place? (leads : disk.place? path = some location) :
    path.location disk.here = location := by
  have located := (place?_eq_some_iff.1 leads).2
  unfold locate at located
  split at located
  · cases located
  · exact location_of_walk located

theorem end_of_walk {steps : List Step} {step : Step}
    (walked : disk.walk here (steps ++ [step]) = .ok location) :
    disk.find? location = some .directory ∨ ∃ above name, location = above ++ [name] ∧
      disk.find? above = some .directory ∧ step = .down name ∧
      (Utf8.encode name.text).length ≤ FileName.limit := by
  rw [walk_append] at walked
  cases reached : disk.walk here steps with
  | error refusal =>
      rw [reached] at walked
      cases walked
  | ok there =>
      rw [reached] at walked
      have last : disk.walk there [step] = .ok location := walked
      have inside := inside_of_walk last
      cases step with
      | up =>
          rw [walk_up inside] at last
          cases last
          exact .inl (find?_dropLast inside)
      | down name =>
          rw [walk_down inside] at last
          split at last
          · cases last
          · rename_i fits
            cases last
            exact .inr ⟨there, name, rfl, inside, rfl, Nat.le_of_not_lt fits⟩

def Homed (disk : Disk) : Prop :=
  disk.find? disk.here = some .directory

theorem KeepsDirectories.homed (h : KeepsDirectories disk other) (homed : disk.Homed) :
    other.Homed := by
  rw [Homed, h.here]
  exact h.directory homed

theorem end_of_place? (homed : disk.Homed) (leads : disk.place? path = some location) :
    disk.find? location = some .directory ∨ ∃ above name, location = above ++ [name] ∧
      disk.find? above = some .directory ∧ name.fits := by
  obtain ⟨noNul, located⟩ := place?_eq_some_iff.1 leads
  unfold locate at located
  split at located
  · cases located
  · rcases List.eq_nil_or_concat path.steps with none_left | ⟨steps, step, split⟩
    · rw [none_left] at located
      cases located
      left
      split
      · rfl
      · exact homed
    · rw [split, List.concat_eq_append] at located
      refine (end_of_walk located).imp_right ?_
      rintro ⟨above, name, same, inside, rfl, short⟩
      refine ⟨above, name, same, inside, ?_⟩
      rw [Path.hasNul, split, List.concat_eq_append, List.any_append, Bool.or_eq_false_iff] at noNul
      have plain : name.text.contains '\x00' = false := by simpa [Step.text] using noNul.2
      rw [FileName.fits, decide_eq_true short, plain]
      rfl

/-- The path goes up from a place where no directory is. -/
def Detours (disk : Disk) (path : Path) : Prop :=
  ∃ above rest, path.steps = above ++ .up :: rest ∧
    disk.nodeAt? ⟨path.anchor, above⟩ ≠ some .directory

theorem directory_of_below {node : Node} {names : List FileName} : ∀ {here : Location},
    names ≠ [] → disk.find? (here ++ names) = some node → disk.find? here = some .directory := by
  induction names with
  | nil => exact fun some_name => absurd rfl some_name
  | cons name rest ih =>
      intro here _ stands
      have above : ∀ {node}, disk.find? (here ++ [name]) = some node →
          disk.find? here = some .directory := by
        intro node stands
        have inside := find?_dropLast stands
        rwa [List.dropLast_concat] at inside
      by_cases last : rest = []
      · subst last
        exact above stands
      · rw [List.append_cons] at stands
        exact above (ih last stands)

theorem exists_names {steps : List Step} (noUp : .up ∉ steps) :
    ∃ names : List FileName, steps = names.map .down := by
  induction steps with
  | nil => exact ⟨[], rfl⟩
  | cons step rest ih =>
      rw [List.mem_cons, not_or] at noUp
      obtain ⟨names, rfl⟩ := ih noUp.2
      cases step with
      | up => exact absurd rfl noUp.1
      | down name => exact ⟨name :: names, rfl⟩

theorem detour_of_walk (stands : disk.find? location = some (.file bytes)) {steps : List Step} :
    ∀ {here : Location}, other.walk here steps = .ok location →
      disk.walk here steps ≠ .ok location →
      ∃ above rest, steps = above ++ .up :: rest ∧ ∀ there, disk.walk here above = .ok there →
        disk.find? there ≠ some .directory := by
  -- A way that has become passable and ends where a file stood before has gone up from a place that
  -- was no directory: from the first such place on, steps down would end below it.
  induction steps with
  | nil => exact fun walked lost => absurd walked lost
  | cons step steps ih =>
      intro here walked lost
      have inside' := inside_of_walk walked
      by_cases inside : disk.find? here = some .directory
      · cases step with
        | up =>
            rw [walk_up inside'] at walked
            rw [walk_up inside] at lost
            obtain ⟨above, rest, rfl, gone⟩ := ih walked lost
            refine ⟨.up :: above, rest, rfl, fun there led => gone there ?_⟩
            rwa [walk_up inside] at led
        | down name =>
            rw [walk_down inside'] at walked
            rw [walk_down inside] at lost
            split at walked
            · cases walked
            · rename_i fits
              rw [if_neg fits] at lost
              obtain ⟨above, rest, rfl, gone⟩ := ih walked lost
              refine ⟨.down name :: above, rest, rfl, fun there led => gone there ?_⟩
              rwa [walk_down inside, if_neg fits] at led
      · by_cases noUp : .up ∈ step :: steps
        · obtain ⟨above, rest, split⟩ := List.append_of_mem noUp
          refine ⟨above, rest, split, fun there led => ?_⟩
          cases above with
          | nil =>
              cases led
              exact inside
          | cons first above => exact absurd (inside_of_walk led) inside
        · obtain ⟨names, down⟩ := exists_names noUp
          have ends := location_of_walk walked
          rw [down, Location.follow_down] at ends
          rw [← ends] at stands
          refine absurd (directory_of_below ?_ stands) inside
          rintro rfl
          cases down

theorem detours_of_file (h : KeepsDirectories disk other)
    (leads : other.place? path = some location) (lost : disk.nodeAt? path = none)
    (stands : disk.find? location = some (.file bytes)) : disk.Detours path := by
  obtain ⟨noNul, located⟩ := place?_eq_some_iff.1 leads
  unfold locate at located
  rw [h.here] at located
  split at located
  · cases located
  · rename_i short
    have lost_walk : disk.walk (if path.isAbsolute then [] else disk.here) path.steps ≠
        .ok location := by
      intro walked
      have found : disk.nodeAt? path = some (.file bytes) := by
        refine nodeAt?_eq_some_iff.2 ⟨location, place?_eq_some_iff.2 ⟨noNul, ?_⟩, stands⟩
        rw [locate, if_neg short, walked]
      rw [lost] at found
      cases found
    obtain ⟨above, rest, split, gone⟩ := detour_of_walk stands located lost_walk
    refine ⟨above, rest, split, fun directory => ?_⟩
    obtain ⟨there, leads', inside⟩ := nodeAt?_eq_some_iff.1 directory
    have located' := (place?_eq_some_iff.1 leads').2
    unfold locate at located'
    split at located'
    · cases located'
    · exact gone there located' inside

structure Wrote (disk : Disk) (location : Location) (bytes : Bytes) (other : Disk) : Prop where
  new : other.fileAt? location = some bytes
  others : ∀ {place}, place ≠ location → other.fileAt? place = disk.fileAt? place

theorem wrote_of_write (homed : disk.Homed) (ran : disk.write path bytes = .ok other) :
    SameDirectories disk other ∧ disk.place? path = some (path.location disk.here) ∧
      Wrote disk (path.location disk.here) bytes other := by
  unfold write at ran
  split at ran
  · cases ran
  · rename_i noNul
    cases located : disk.locate path with
    | error refusal =>
        rw [located] at ran
        cases ran
    | ok location =>
        rw [located] at ran
        have leads : disk.place? path = some location :=
          place?_eq_some_iff.2 ⟨by simpa using noNul, located⟩
        simp only at ran
        split at ran
        · cases ran
        · rename_i free
          cases ran
          obtain ⟨above, name, rfl, inside, fits⟩ := (end_of_place? homed leads).resolve_left free
          have put : ∀ place, (disk.putAt (above ++ [name]) (.file bytes)).find? place =
              if place = above ++ [name] then some (.file bytes) else disk.find? place :=
            find?_putAt inside free fits
          rw [location_of_place? leads]
          refine ⟨sameDirectories_putAt_file free bytes, leads, ?_, fun {place} apart => ?_⟩
          · rw [fileAt?_eq_some_iff, put, if_pos rfl]
          · rw [Disk.fileAt?, put, if_neg apart]
            rfl

theorem write_ne_nulInPath (noNul : path.hasNul = false) :
    disk.write path bytes ≠ .error .nulInPath := by
  unfold write
  rw [noNul, if_neg Bool.false_ne_true]
  cases disk.locate path with
  | error refusal => simp
  | ok location =>
      simp only
      split <;> simp

end DiagnosticRepair.Disk
