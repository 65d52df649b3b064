import DiagnosticRepair.Proofs.Disk.Making
import DiagnosticRepair.Proofs.Patch.Edit

namespace DiagnosticRepair

inductive Operation where
  | edit (path : Path) (change : Patch.Edit) (label : Text)
  | create (path : Path) (content description label : Text)

namespace Operation

def path : Operation → Path
  | edit path .. => path
  | create path .. => path

def label : Operation → Text
  | edit _ _ label => label
  | create _ _ _ label => label

def run (root : Path) : Operation → DiskAction Mutation
  | edit path change _ => Patch.edit root path change
  | create path content description _ => Patch.create root path content description

def work (root : Path) (operation : Operation) : DiskAction Outcome := do
  let mutation ← operation.run root
  return mutation.outcome operation.path operation.label

/-- What an operation does to the files of a disk, by what it says about itself. -/
inductive Effect (root : Path) (disk : Disk) : Operation → Mutation → Disk → Prop
  | idle {operation : Operation} {mutation : Mutation} {other : Disk}
      (quiet : mutation.isChanged = false)
      (same : ∀ location, other.fileAt? location = disk.fileAt? location) :
      Effect root disk operation mutation other
  | edited {path : Path} {change : Patch.Edit} {label text : Text} {location : Location} {other : Disk}
      (leads : disk.place? (root ++ path) = some location)
      (read : disk.fileAt? location = some (Utf8.encode text))
      (differs : Utf8.encode (change text).1 ≠ Utf8.encode text)
      (wrote : disk.Wrote location (Utf8.encode (change text).1) other) :
      Effect root disk (.edit path change label) (.changed (change text).2) other
  | created {path : Path} {content description label : Text} {location : Location} {other : Disk}
      (free : disk.nodeAt? (root ++ path) = none)
      (leads : other.place? (root ++ path) = some location)
      (new : disk.fileAt? location = none ∨ disk.Detours (root ++ path))
      (wrote : disk.Wrote location (Utf8.encode content) other) :
      Effect root disk (.create path content description label) (.changed [description]) other

structure Fits (root : Path) (operation : Operation) : Prop where
  noNul : (root ++ operation.path).hasNul = false
  steps : ∀ step ∈ (root ++ operation.path).steps,
    (Utf8.encode step.text).length ≤ FileName.limit
  whole : (Utf8.encode (root ++ operation.path).text).length < Disk.pathLimit

end Operation

namespace Disk

variable {disk other third : Disk} {root path : Path} {location : Location} {touched more : List Path}

theorem walk_ne_nameTooLong {steps : List Step} : ∀ {here : Location},
    (∀ step ∈ steps, (Utf8.encode step.text).length ≤ FileName.limit) →
      disk.walk here steps ≠ .error .nameTooLong := by
  induction steps with
  | nil =>
      intro here _ walked
      cases walked
  | cons step rest ih =>
      intro here short
      obtain ⟨first, later⟩ := List.forall_mem_cons.1 short
      by_cases inside : disk.find? here = some .directory
      · cases step with
        | up =>
            rw [walk_up inside]
            exact ih later
        | down name =>
            have fits : ¬ FileName.limit < (Utf8.encode name.text).length := Nat.not_lt.2 first
            rw [walk_down inside, if_neg fits]
            exact ih later
      · have blocked : Blocked (disk.walk here (step :: rest)) := walk_blocked inside
        rcases blocked with blocked | blocked <;> rw [blocked] <;> simp

/-- Every file that is not as it was is one that a path among these leads to. -/
structure Covers (disk : Disk) (root : Path) (touched : List Path) (other : Disk) : Prop where
  directories : KeepsDirectories disk other
  covered : ∀ location, other.fileAt? location ≠ disk.fileAt? location →
    ∃ path ∈ touched, other.place? (root ++ path) = some location

namespace Covers

theorem refl (disk : Disk) (root : Path) : Covers disk root [] disk :=
  ⟨.refl disk, fun _ changed => absurd rfl changed⟩

theorem trans (h : Covers disk root touched other) (h' : Covers other root more third) :
    Covers disk root (touched ++ more) third := by
  refine ⟨h.directories.trans h'.directories, fun location changed => ?_⟩
  by_cases late : third.fileAt? location = other.fileAt? location
  · rw [late] at changed
    obtain ⟨path, member, leads⟩ := h.covered location changed
    exact ⟨path, List.mem_append_left _ member, h'.directories.place? leads⟩
  · obtain ⟨path, member, leads⟩ := h'.covered location late
    exact ⟨path, List.mem_append_right _ member, leads⟩

end Covers

end Disk

namespace Operation

open Disk

variable {disk other : Disk} {root path : Path} {operation : Operation} {operations : List Operation}
  {mutation : Mutation} {outcome : Outcome} {content description label : Text}
  {change : Patch.Edit}

theorem edit_effect (ran : Patch.edit root path change disk = (.ok mutation, other)) :
    KeepsDirectories disk other ∧ Effect root disk (.edit path change label) mutation other := by
  cases nul : (root ++ path).hasNul with
  | true =>
      have refused : disk.read (root ++ path) = .error .nulInPath := by rw [Disk.read, if_pos nul]
      rw [Patch.edit, Patch.editMeanwhile, refused] at ran
      cases ran
  | false =>
      cases read : disk.text? (root ++ path) with
      | none =>
          obtain ⟨reason, failed⟩ := Patch.edit_of_unreadable change nul read
          rw [failed] at ran
          cases ran
          exact ⟨.refl disk, .idle rfl fun _ => rfl⟩
      | some text =>
          obtain ⟨location, leads, there⟩ := nodeAt?_eq_some_iff.1 (nodeAt?_of_text?_some read)
          obtain ⟨_, worked, rewritten⟩ := Patch.edit_of_readable change read
          rw [worked] at ran
          cases ran
          have wrote : disk.Wrote location (Utf8.encode (change text).1) other := by
            refine ⟨?_, fun {place} apart => ?_⟩
            · rw [fileAt?_eq_some_iff, rewritten.node, if_pos leads, there, Option.map_some,
                Node.mapText_file_encode]
            · rw [Disk.fileAt?, rewritten.node, if_neg]
              · rfl
              · rw [leads, Option.some.injEq]
                exact Ne.symm apart
          refine ⟨rewritten.sameButTexts.sameDirectories.keeps, ?_⟩
          unfold Mutation.ofEdit
          split
          · rename_i fixed
            refine .idle rfl fun place => ?_
            by_cases here : place = location
            · rw [here, wrote.new, fixed, fileAt?_eq_some_iff.2 there]
            · exact wrote.others here
          · rename_i changed
            exact .edited leads (fileAt?_eq_some_iff.2 there)
              (fun same => changed (Utf8.encode_inj.1 same)) wrote

theorem create_effect (homed : disk.Homed)
    (ran : Patch.create root path content description disk = (.ok mutation, other)) :
    KeepsDirectories disk other ∧
      Effect root disk (.create path content description label) mutation other := by
  unfold Patch.create at ran
  simp only at ran
  split at ran
  · cases ran
  · cases ran
    exact ⟨.refl disk, .idle rfl fun _ => rfl⟩
  · rename_i absent
    have deepens := deepens_makeDirectories disk (root ++ path).parent
    split at ran
    · rename_i e made failed
      rw [failed] at deepens
      cases e with
      | nulInPath => cases ran
      | refused refusal place =>
          cases ran
          exact ⟨deepens.keeps, .idle rfl deepens.fileAt?⟩
    · rename_i made succeeded
      rw [succeeded] at deepens
      split at ran
      · rename_i written wrote
        cases ran
        obtain ⟨same, leads, wrote⟩ := wrote_of_write (deepens.keeps.homed homed) wrote
        have free : disk.nodeAt? (root ++ path) = none := by
          unfold pathExists at absent
          have short : ¬ disk.TooLong (root ++ path) := by
            intro long
            rw [test_of_tooLong _ long] at absent
            cases absent
          rw [test_of_not_tooLong _ short] at absent
          simpa using absent
        refine ⟨deepens.keeps.trans same.keeps, .created free (same.keeps.place? leads) ?_
          ⟨wrote.new, fun apart => (wrote.others apart).trans (deepens.fileAt? _)⟩⟩
        cases old : disk.fileAt? ((root ++ path).location made.here) with
        | none => exact .inl rfl
        | some bytes =>
            exact .inr (detours_of_file deepens.keeps leads free (fileAt?_eq_some_iff.1 old))
      · rename_i e failed
        cases e with
        | nulInPath => cases ran
        | refused refusal place =>
            cases ran
            exact ⟨deepens.keeps, .idle rfl deepens.fileAt?⟩

theorem run_effect (homed : disk.Homed) (ran : operation.run root disk = (.ok mutation, other)) :
    KeepsDirectories disk other ∧ Effect root disk operation mutation other := by
  cases operation with
  | edit path change label => exact edit_effect ran
  | create path content description label => exact create_effect homed ran

theorem Effect.covers (h : Effect root disk operation mutation other)
    (keeps : KeepsDirectories disk other) :
    Covers disk root (mutation.outcome operation.path operation.label).touched other := by
  refine ⟨keeps, fun place changed => ?_⟩
  cases h with
  | idle _ same => exact absurd (same place) changed
  | @edited path _ _ _ location _ leads _ _ wrote =>
      by_cases here : place = location
      · exact ⟨path, List.mem_singleton.2 rfl, here ▸ keeps.place? leads⟩
      · exact absurd (wrote.others here) changed
  | @created path _ _ _ location _ _ leads _ wrote =>
      by_cases here : place = location
      · exact ⟨path, List.mem_singleton.2 rfl, here ▸ leads⟩
      · exact absurd (wrote.others here) changed

theorem work_eq_ok_iff : operation.work root disk = (.ok outcome, other) ↔
    ∃ mutation, operation.run root disk = (.ok mutation, other) ∧
      outcome = mutation.outcome operation.path operation.label := by
  cases ran : operation.run root disk with
  | mk result after =>
      cases result with
      | error e =>
          rw [work, DiskAction.bind_of_error ran]
          refine iff_of_false (fun same => by cases same) ?_
          rintro ⟨_, same, _⟩
          cases same
      | ok mutation =>
          rw [work, DiskAction.bind_of_ok ran]
          constructor
          · intro reported
            cases reported
            exact ⟨mutation, rfl, rfl⟩
          · rintro ⟨_, same, rfl⟩
            cases same
            rfl

theorem covers_of_each (homed : disk.Homed)
    (ran : Stage.each operations (work root) disk = (.ok outcome, other)) :
    Covers disk root outcome.touched other := by
  -- By induction on the run: directories stay, so a path that has led to a changed file still does.
  obtain ⟨outcomes, trace, rfl⟩ := Stage.each_eq_ok_iff.1 ran
  suffices Covers disk root (outcomes.flatMap (·.touched)) other from
    ⟨this.directories, fun place changed => by
      simpa only [Outcome.mem_touched_sum, List.mem_flatMap] using this.covered place changed⟩
  clear ran
  induction trace with
  | nil disk => exact .refl disk root
  | cons worked _ ih =>
      obtain ⟨mutation, ran, rfl⟩ := work_eq_ok_iff.1 worked
      obtain ⟨keeps, effect⟩ := run_effect homed ran
      exact (effect.covers keeps).trans (ih (keeps.homed homed))

theorem Fits.not_tooLong (h : operation.Fits root) (disk : Disk) :
    ¬ disk.TooLong (root ++ operation.path) := by
  rintro ⟨_, located⟩
  rw [locate, if_neg (Nat.not_le.2 h.whole)] at located
  exact walk_ne_nameTooLong h.steps located

theorem exists_ofAccessError {e : AccessError} (usable : e ≠ .nulInPath) :
    ∃ mutation, Mutation.ofAccessError e = .ok mutation := by
  cases e with
  | nulInPath => exact absurd rfl usable
  | refused refusal place => exact ⟨_, rfl⟩

theorem create_returns (noNul : (root ++ path).hasNul = false)
    (short : ¬ disk.TooLong (root ++ path)) :
    ∃ mutation other, Patch.create root path content description disk = (.ok mutation, other) := by
  have parent : (root ++ path).parent.hasNul = false := by
    rw [Path.hasNul, Path.parent, List.any_eq_false] at *
    exact fun step member => noNul step (List.dropLast_subset _ member)
  unfold Patch.create pathExists
  simp only [test_of_not_tooLong _ short]
  cases (disk.nodeAt? (root ++ path)).any fun _ => true with
  | true => exact ⟨_, _, rfl⟩
  | false =>
      simp only
      rcases made : disk.makeDirectories (root ++ path).parent with ⟨e | _, middle⟩
      · obtain ⟨mutation, told⟩ := exists_ofAccessError (e := e) (by
          rintro rfl
          exact makeDirectories_ne_nulInPath parent (congrArg Prod.fst made))
        exact ⟨mutation, middle, by simp only [told]⟩
      · simp only
        cases wrote : middle.write (root ++ path) (Utf8.encode content) with
        | ok written => exact ⟨_, _, rfl⟩
        | error e =>
            obtain ⟨mutation, told⟩ := exists_ofAccessError (e := e) (by
              rintro rfl
              exact write_ne_nulInPath noNul wrote)
            exact ⟨mutation, middle, by simp only [told]⟩

theorem run_returns (h : operation.Fits root) (disk : Disk) :
    ∃ mutation other, operation.run root disk = (.ok mutation, other) := by
  cases operation with
  | edit path change label =>
      obtain ⟨mutation, other, ran, _⟩ := Patch.edit_mends change label h.noNul disk
      exact ⟨mutation, other, ran⟩
  | create path content description label => exact create_returns h.noNul (h.not_tooLong disk)

theorem runs_respect_disk (root : Path) :
    (∀ operation disk mutation other, disk.Homed →
      operation.run root disk = (.ok mutation, other) → Effect root disk operation mutation other) ∧
    (∀ operations disk outcome other, disk.Homed →
      Stage.each operations (work root) disk = (.ok outcome, other) →
      ∀ location, other.fileAt? location ≠ disk.fileAt? location →
        ∃ path ∈ outcome.touched, other.place? (root ++ path) = some location) ∧
    ∀ operations disk, (∀ operation ∈ operations, Fits root operation) →
      ∃ outcome other, Stage.each operations (work root) disk = (.ok outcome, other) := by
  refine ⟨fun _ _ _ _ homed ran => (run_effect homed ran).2,
    fun _ _ _ _ homed ran => (covers_of_each homed ran).covered, fun operations disk fits => ?_⟩
  have step : ∀ operation ∈ operations, ∀ {disk : Disk}, True →
      ∃ outcome other, operation.work root disk = (.ok outcome, other) ∧ True := by
    intro operation member disk _
    obtain ⟨mutation, other, ran⟩ := run_returns (fits operation member) disk
    exact ⟨_, other, work_eq_ok_iff.2 ⟨mutation, ran, rfl⟩, trivial⟩
  obtain ⟨outcomes, other, trace⟩ := Stage.exists_trace (fun _ => True) step trivial
  exact ⟨_, other, Stage.each_of_trace trace⟩

def notes : FileName := ⟨"b.txt", by decide⟩

def oneFileDisk : Disk :=
  (Disk.empty []).put [] notes (.file (Utf8.encode "old\n".toList))

def detour : Operation :=
  .create "missing/../b.txt" "new\n".toList "Created file" "generate test"

def detourAndEdits : List Operation := [
  detour,
  .edit "gone.txt" (fun text => (text ++ "x", ["appended"])) "edit",
  .edit "b.txt" (fun text => (text ++ "x", ["appended"])) "edit"]

theorem runs_respect_disk_detour :
    (∃ mutation other, detour.run ⟨.root, []⟩ oneFileDisk = (.ok mutation, other) ∧
      mutation.isChanged = true ∧ Effect ⟨.root, []⟩ oneFileDisk detour mutation other) ∧
    ∃ outcome other,
      Stage.each detourAndEdits (work ⟨.root, []⟩) oneFileDisk = (.ok outcome, other) ∧
      ∀ location, other.fileAt? location ≠ oneFileDisk.fileAt? location →
        ∃ path ∈ outcome.touched, other.place? (⟨.root, []⟩ ++ path) = some location := by
  obtain ⟨step, covers, returns⟩ := runs_respect_disk ⟨.root, []⟩
  have fits : ∀ operation ∈ detourAndEdits, Fits ⟨.root, []⟩ operation := by
    simp only [detourAndEdits, List.forall_mem_cons, List.not_mem_nil, false_implies, implies_true,
      and_true]
    exact ⟨⟨by decide +kernel, by decide +kernel, by decide +kernel⟩,
      ⟨by decide +kernel, by decide +kernel, by decide +kernel⟩,
      ⟨by decide +kernel, by decide +kernel, by decide +kernel⟩⟩
  have homed : oneFileDisk.Homed := by rfl
  constructor
  · obtain ⟨mutation, other, ran⟩ := run_returns (fits detour (List.mem_cons_self ..)) oneFileDisk
    refine ⟨mutation, other, ran, ?_, step detour oneFileDisk mutation other homed ran⟩
    have changed : (detour.run ⟨.root, []⟩ oneFileDisk).1.toOption.map Mutation.isChanged =
        some true := by
      decide +kernel
    rw [ran] at changed
    exact Option.some.inj changed
  · obtain ⟨outcome, other, ran⟩ := returns detourAndEdits oneFileDisk fits
    exact ⟨outcome, other, ran, covers detourAndEdits oneFileDisk outcome other homed ran⟩

theorem create_overwrites_behind_missing_directory :
    ¬ ∀ (root path : Path) (content description label : Text) (disk other : Disk)
      (changes : List Text), disk.Homed → Fits root (.create path content description label) →
      Patch.create root path content description disk = (.ok (.changed changes), other) →
      ∃ location, disk.fileAt? location = none ∧
        disk.Wrote location (Utf8.encode content) other := by
  intro adds
  have fits : Fits ⟨.root, []⟩ detour :=
    ⟨by decide +kernel, by decide +kernel, by decide +kernel⟩
  have homed : oneFileDisk.Homed := by rfl
  have changed : (detour.run ⟨.root, []⟩ oneFileDisk).1.toOption.map Mutation.isChanged =
      some true := by
    decide +kernel
  have new : (detour.run ⟨.root, []⟩ oneFileDisk).2.fileAt? [notes] =
      some (Utf8.encode "new\n".toList) := by
    decide +kernel
  have old : oneFileDisk.fileAt? [notes] = some (Utf8.encode "old\n".toList) := by
    decide +kernel
  obtain ⟨mutation, other, ran⟩ := run_returns fits oneFileDisk
  rw [ran] at changed new
  cases mutation with
  | unchanged => cases changed
  | failed reason => cases changed
  | changed changes =>
      obtain ⟨location, free, wrote⟩ := adds _ _ _ _ _ _ _ _ homed fits ran
      by_cases here : [notes] = location
      · rw [← here, old] at free
        cases free
      · have same := wrote.others here
        rw [new, old] at same
        revert same
        decide

end Operation

end DiagnosticRepair
