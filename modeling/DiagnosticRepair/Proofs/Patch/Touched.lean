import DiagnosticRepair.Proofs.Patch.NamedFiles
import DiagnosticRepair.Proofs.Patch.TestFixes
import DiagnosticRepair.Proofs.Patch.Generation
import DiagnosticRepair.Proofs.Source.Growth

namespace DiagnosticRepair

inductive Node.Rises (lt : Text → Text → Prop) : Option Node → Option Node → Prop where
  | created : ∀ text : Text, Rises lt none (some (.file (Utf8.encode text)))
  | edited : ∀ {old new : Text}, lt old new →
      Rises lt (some (.file (Utf8.encode old))) (some (.file (Utf8.encode new)))

namespace Node.Rises

variable {lt : Text → Text → Prop} {first second third : Option Node}

theorem trans (order : ∀ a b c, lt a b → lt b c → lt a c) (h : Rises lt first second)
    (h' : Rises lt second third) : Rises lt first third := by
  generalize same : second = middle at h'
  cases h with
  | created text =>
      cases h' with
      | created => cases same
      | edited _ => exact .created _
  | edited lower =>
      cases h' with
      | created => cases same
      | edited higher =>
          obtain rfl := Utf8.encode_inj.1 (Node.file.inj (Option.some.inj same))
          exact .edited (order _ _ _ lower higher)

theorem ne (irrefl : ∀ a, ¬ lt a a) (h : Rises lt first second) : second ≠ first := by
  cases h with
  | created => simp
  | edited lower =>
      intro same
      rw [Utf8.encode_inj.1 (Node.file.inj (Option.some.inj same))] at lower
      exact irrefl _ lower

theorem isFile (h : Rises lt first second) : ∃ bytes, second = some (.file bytes) := by
  cases h with
  | created => exact ⟨_, rfl⟩
  | edited => exact ⟨_, rfl⟩

end Node.Rises

/-- A disk after a run that reports the paths it touched: each leads to a file that has risen, and
all else is as it was. -/
structure Disk.Touches (lt : Text → Text → Prop) (root : Path) (disk : Disk) (touched : List Path)
    (other : Disk) : Prop where
  directories : disk.SameDirectories other
  leads : ∀ path ∈ touched, ∃ location, disk.place? (root ++ path) = some location ∧
    Node.Rises lt (disk.find? location) (other.find? location)
  reported : ∀ location, other.find? location = disk.find? location ∨
    ∃ path ∈ touched, disk.place? (root ++ path) = some location

namespace Disk.Touches

variable {lt : Text → Text → Prop} {root : Path} {disk other third : Disk}
  {touched more all : List Path}

theorem refl (disk : Disk) : Touches lt root disk [] disk :=
  ⟨.refl disk, fun _ member => (List.not_mem_nil member).elim, fun _ => .inl rfl⟩

theorem of_mem_iff (h : Touches lt root disk touched other)
    (same : ∀ path, path ∈ all ↔ path ∈ touched) : Touches lt root disk all other := by
  refine ⟨h.directories, fun path member => h.leads path ((same path).1 member), fun location => ?_⟩
  exact (h.reported location).imp_right fun ⟨path, member, leads⟩ => ⟨path, (same path).2 member, leads⟩

theorem rises_or_same (h : Touches lt root disk touched other) (location : Location) :
    other.find? location = disk.find? location ∨
      Node.Rises lt (disk.find? location) (other.find? location) := by
  rcases h.reported location with same | ⟨path, member, leads⟩
  · exact .inl same
  · obtain ⟨place, leads', rises⟩ := h.leads path member
    cases leads.symm.trans leads'
    exact .inr rises

theorem trans (order : ∀ a b c, lt a b → lt b c → lt a c) (h : Touches lt root disk touched other)
    (h' : Touches lt root other more third) : Touches lt root disk (touched ++ more) third := by
  have places := h.directories.place?_eq
  refine ⟨h.directories.trans h'.directories, ?_, ?_⟩
  · intro path member
    rcases List.mem_append.1 member with early | late
    · obtain ⟨location, leads, rises⟩ := h.leads path early
      refine ⟨location, leads, ?_⟩
      rcases h'.rises_or_same location with same | higher
      · exact same ▸ rises
      · exact rises.trans order higher
    · obtain ⟨location, leads, rises⟩ := h'.leads path late
      refine ⟨location, (places _).symm.trans leads, ?_⟩
      rcases h.rises_or_same location with same | lower
      · exact same ▸ rises
      · exact lower.trans order rises
  · intro location
    rcases h'.reported location with same' | ⟨path, member, leads⟩
    · rcases h.reported location with same | ⟨path, member, leads⟩
      · exact .inl (same'.trans same)
      · exact .inr ⟨path, List.mem_append_left _ member, leads⟩
    · exact .inr ⟨path, List.mem_append_right _ member, (places _).symm.trans leads⟩

theorem exact (irrefl : ∀ a, ¬ lt a a) (h : Touches lt root disk touched other)
    (location : Location) :
    (∃ path ∈ touched, other.place? (root ++ path) = some location) ↔
      other.find? location ≠ disk.find? location := by
  simp only [h.directories.place?_eq]
  constructor
  · rintro ⟨path, member, leads⟩
    obtain ⟨place, leads', rises⟩ := h.leads path member
    cases leads.symm.trans leads'
    exact rises.ne irrefl
  · exact (h.reported location).resolve_left

theorem isFile (h : Touches lt root disk touched other) {path : Path} (member : path ∈ touched) :
    ∃ bytes, other.nodeAt? (root ++ path) = some (.file bytes) := by
  obtain ⟨location, leads, rises⟩ := h.leads path member
  obtain ⟨bytes, there⟩ := rises.isFile
  exact ⟨bytes, nodeAt?_eq_some_iff.2 ⟨location, (h.directories.place?_eq _).trans leads, there⟩⟩

theorem of_created {path target : Path} {text : Text} (lands : root ++ path = target)
    (h : disk.Created target (Utf8.encode text) other) : Touches lt root disk [path] other := by
  subst lands
  obtain ⟨location, leads⟩ := h.leads
  have free : disk.find? location = none := by
    have nothing := h.free
    rwa [nodeAt?, leads] at nothing
  refine ⟨h.directories, ?_, fun place => ?_⟩
  · intro other_path member
    rw [List.mem_singleton.1 member]
    refine ⟨location, leads, ?_⟩
    rw [h.node location, if_pos leads, free]
    exact .created text
  · rw [h.node place]
    split
    · rename_i there
      exact .inr ⟨path, List.mem_singleton.2 rfl, there⟩
    · exact .inl rfl

end Disk.Touches

namespace Stage

variable {α : Type} {work : α → DiskAction Outcome} {lt : Text → Text → Prop} {root path : Path}
  {disk other : Disk} {items : List α} {outcomes : List Outcome} {outcome : Outcome} {f : Text → Text}

theorem touches_of_mends (h : Patch.Mends disk root path f outcome other)
    (rises : ∀ text, f text ≠ text → lt text (f text)) :
    disk.Touches lt root outcome.touched other := by
  refine ⟨h.rewritten.sameButTexts.sameDirectories, ?_, fun location => ?_⟩
  · intro touched member
    obtain ⟨rfl, text, read, changed⟩ := h.touched.1 member
    obtain ⟨location, leads, there⟩ := Disk.nodeAt?_eq_some_iff.1 (Disk.nodeAt?_of_text?_some read)
    refine ⟨location, leads, ?_⟩
    rw [h.rewritten.node location, if_pos leads, there, Option.map_some, Node.mapText_file_encode]
    exact .edited (rises text changed)
  · rw [h.rewritten.node location]
    split
    · rename_i leads
      cases read : disk.text? (root ++ path) with
      | none =>
          left
          rw [Disk.text?_eq_bind, Disk.nodeAt?, leads, Option.bind_some] at read
          cases there : disk.find? location with
          | none => rfl
          | some node =>
              rw [there, Option.bind_some] at read
              rw [Option.map_some, Node.mapText_of_text?_none read]
      | some text =>
          by_cases fixed : f text = text
          · left
            have there := Disk.nodeAt?_of_text?_some read
            rw [Disk.nodeAt?, leads, Option.bind_some] at there
            rw [there, Option.map_some, Node.mapText_file_encode, fixed]
          · exact .inr ⟨path, h.touched.2 ⟨rfl, text, read, fixed⟩, leads⟩
    · exact .inl rfl

theorem touches_of_trace (order : ∀ a b c, lt a b → lt b c → lt a c)
    (step : ∀ item ∈ items, ∀ {middle outcome after}, disk.SameDirectories middle →
      work item middle = (.ok outcome, after) → middle.Touches lt root outcome.touched after)
    (h : Trace work items disk outcomes other) :
    disk.Touches lt root (Outcome.sum outcomes).touched other := by
  suffices disk.Touches lt root (outcomes.flatMap (·.touched)) other from
    this.of_mem_iff fun path => by rw [Outcome.mem_touched_sum, List.mem_flatMap]
  induction h with
  | nil disk => exact .refl disk
  | cons ran _ ih =>
      have first := step _ (List.mem_cons_self ..) (.refl _) ran
      exact first.trans order (ih fun item member => fun same =>
        step item (List.mem_cons_of_mem _ member) (first.directories.trans same))

section

variable {β : Type} {work : Text × List β → Path → DiskAction Outcome} {label : Text}
  {f : Text × List β → Text → Text} {report : Text × List β → Text → Outcome} {groups : Grouped β}
  {group : Text × List β}

theorem onGroup_mends
    (fixes : ∀ group : Text × List β,
      Fixes root (Path.ofText group.1) (work group (Path.ofText group.1)) label (f group) (report group))
    (reports : ∀ text touched, touched ∈ (report group text).touched ↔
      touched = Path.ofText group.1 ∧ f group text ≠ text)
    (ran : onGroup root work group disk = (.ok outcome, other)) :
    Patch.Mends disk root (Path.ofText group.1) (f group) outcome other := by
  rcases onNamedFile_cases (fixes group) disk with
    ⟨_, failed⟩ | ⟨_, unread, ⟨_, skipped⟩ | ⟨reason, failed⟩⟩ | ⟨text, after, read, worked, rewritten⟩
  · rw [onGroup, failed] at ran
    cases ran
  · rw [onGroup, skipped] at ran
    cases ran
    exact .of_unreadable unread rfl
  · rw [onGroup, failed] at ran
    cases ran
    exact .of_unreadable unread rfl
  · rw [onGroup, worked] at ran
    cases ran
    exact .of_readable read rewritten (reports text)

end

theorem touches_of_unusedNames {names : List UnusedName}
    (ran : unusedNames root names disk = (.ok outcome, other)) :
    disk.Touches Text.Longer root outcome.touched other := by
  obtain ⟨outcomes, trace, rfl⟩ := unusedNames_eq_ok_iff.1 ran
  refine touches_of_trace Text.Longer.trans (fun group _ {_ _ _} _ ran => ?_) trace
  have reports : ∀ text touched, touched ∈
      (editUnusedNamesReport (Path.ofText group.1) group.1 group.2 text).touched ↔
      touched = Path.ofText group.1 ∧ renamedText group text ≠ text := by
    intro text touched
    rw [editUnusedNamesReport, Outcome.mem_touched_add, Mutation.mem_touched_ofEdit]
    exact or_iff_left List.not_mem_nil
  exact touches_of_mends (onGroup_mends (renameWork_fixes root) reports ran)
    fun _ changed => UnusedNames.longer_of_rename_ne changed

theorem touches_of_imports {files : Grouped Text}
    (ran : imports root files disk = (.ok outcome, other)) :
    disk.Touches Text.Longer root outcome.touched other := by
  obtain ⟨outcomes, trace, rfl⟩ := imports_eq_ok_iff.1 ran
  refine touches_of_trace Text.Longer.trans (fun group _ {_ _ _} _ ran => ?_) trace
  exact touches_of_mends
    (onGroup_mends (insertWork_fixes root) (fun _ _ => Mutation.mem_touched_ofEdit) ran)
    fun _ changed => ImportBlock.longer_of_insert_ne changed

variable {testFiles : List Path}

theorem touches_of_aliases (usable : ∀ file ∈ testFiles, (root ++ file).hasNul = false)
    (ran : aliases root testFiles disk = (.ok outcome, other)) :
    disk.Touches Text.Richer root outcome.touched other := by
  rw [aliases_eq, each_eq_ok_iff] at ran
  obtain ⟨outcomes, trace, rfl⟩ := ran
  refine touches_of_trace Text.Richer.trans (fun file member {middle _ _} _ ran => ?_) trace
  obtain ⟨outcome, after, ran', mends⟩ := aliasWork_mends (usable file member) middle
  cases ran.symm.trans ran'
  exact touches_of_mends mends fun _ changed => Alias.richer_of_resolve_ne changed

theorem touches_of_testImports (usable : ∀ file ∈ testFiles, (root ++ file).hasNul = false)
    (ran : testImports root testFiles disk = (.ok outcome, other)) :
    disk.Touches Text.Richer root outcome.touched other := by
  rw [testImports_eq, each_eq_ok_iff] at ran
  obtain ⟨outcomes, trace, rfl⟩ := ran
  refine touches_of_trace Text.Richer.trans (fun file member {middle _ _} _ ran => ?_) trace
  obtain ⟨outcome, after, ran', mends⟩ := importWork_mends (usable file member) middle
  cases ran.symm.trans ran'
  exact touches_of_mends mends fun _ changed => TestImports.richer_of_fix_ne changed

theorem touches_of_generateTest {component : Component}
    (placed : Component.Placed root disk component)
    (ran : generateTest root component disk = (.ok outcome, other)) :
    disk.Touches lt root outcome.touched other := by
  rcases generateTest_cases root placed with
    ⟨_, e, failed⟩ | ⟨_, passed⟩ | ⟨_, _, reported, written, wrote, touched, created⟩
  · rw [failed] at ran
    cases ran
  · rw [passed] at ran
    cases ran
    exact .refl disk
  · rw [wrote] at ran
    cases ran
    rw [touched]
    exact .of_created placed.reached created

theorem touches_of_generateTests {part : Path} (order : ∀ a b c, lt a b → lt b c → lt a c)
    (ran : generateTests root (root ++ part) disk = (.ok outcome, other)) :
    disk.Touches lt root outcome.touched other := by
  obtain ⟨components, outcomes, found, trace, same⟩ := exists_trace_of_generateTests ran
  rw [same]
  refine touches_of_trace order (fun component member {_ _ _} kept ran => ?_) trace
  exact touches_of_generateTest
    ((Component.placed_of_untested_below found member).of_same kept) ran

end Stage

end DiagnosticRepair
