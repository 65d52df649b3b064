import DiagnosticRepair.Proofs.ComponentName
import DiagnosticRepair.Proofs.Source.GeneratedTest
import DiagnosticRepair.Proofs.Patch.Generation
import DiagnosticRepair.Proofs.Patch.TestFixes

namespace DiagnosticRepair

namespace DiskAction

variable {α β : Type} {Kept : Disk → Prop} {action : DiskAction α} {next : α → DiskAction β}

def Keeps (Kept : Disk → Prop) (action : DiskAction α) : Prop :=
  ∀ disk, Kept disk → Kept (action disk).2

theorem keeps_pure (value : α) : Keeps Kept (pure value) :=
  fun _ kept => kept

theorem keeps_get : Keeps Kept get :=
  fun _ kept => kept

theorem Keeps.bind (h : Keeps Kept action) (h' : ∀ value, Keeps Kept (next value)) :
    Keeps Kept (action >>= next) := by
  intro disk kept
  have first := h disk kept
  rcases ran : action disk with ⟨e | value, middle⟩
  · rw [bind_of_error ran]
    rwa [ran] at first
  · rw [bind_of_ok ran]
    rw [ran] at first
    exact h' value middle first

theorem keeps_mapM {items : List β} {work : β → DiskAction α}
    (h : ∀ item ∈ items, Keeps Kept (work item)) : Keeps Kept (items.mapM work) := by
  induction items with
  | nil => exact keeps_pure []
  | cons item rest ih =>
      rw [List.mapM_cons]
      exact (h item (List.mem_cons_self ..)).bind fun _ =>
        (ih fun other member => h other (List.mem_cons_of_mem _ member)).bind fun _ => keeps_pure _

theorem keeps_each {items : List β} {work : β → DiskAction Outcome}
    (h : ∀ item ∈ items, Keeps Kept (work item)) : Keeps Kept (Stage.each items work) :=
  (keeps_mapM h).bind fun _ => keeps_pure _

end DiskAction

/-- What may stand where a test is generated: nothing yet, or a test generated for a component whose
name has no slash. -/
inductive Settled : Option Node → Prop
  | free : Settled none
  | generated {component : Component} : '/' ∉ component.name →
      Settled (some (.file (Utf8.encode component.testText)))

inductive Scaffolds : Option Node → Option Node → Prop
  | same (node : Option Node) : Scaffolds node node
  | generated {component : Component} : '/' ∉ component.name →
      Scaffolds none (some (.file (Utf8.encode component.testText)))

section

variable {first second third : Option Node} {node : Node} {text : Text}

theorem Scaffolds.trans (h : Scaffolds first second) (h' : Scaffolds second third) :
    Scaffolds first third := by
  cases h with
  | same => exact h'
  | generated plain =>
      cases h' with
      | same => exact .generated plain

theorem Scaffolds.eq_of_some (h : Scaffolds (some node) second) : second = some node := by
  cases h with
  | same => rfl

theorem Scaffolds.exists_component (h : Scaffolds none (some node)) :
    ∃ component : Component, '/' ∉ component.name ∧
      node = .file (Utf8.encode component.testText) := by
  cases h with
  | generated plain => exact ⟨_, plain, rfl⟩

theorem Settled.of_scaffolds (settled : Settled first) (h : Scaffolds first second) :
    Settled second := by
  cases h with
  | same => exact settled
  | generated plain => exact .generated plain

theorem Settled.exists_component (settled : Settled (some (.file (Utf8.encode text)))) :
    ∃ component : Component, '/' ∉ component.name ∧ text = component.testText := by
  generalize there : some (Node.file (Utf8.encode text)) = node at settled
  cases settled with
  | free => cases there
  | generated plain =>
      exact ⟨_, plain, Utf8.encode_inj.1 (Node.file.inj (Option.some.inj there))⟩

end

namespace Patch

variable {disk : Disk} {root path : Path} {edit : Edit} {location : Location}

theorem edit_snd_of_unreadable (unread : disk.text? (root ++ path) = none) :
    (Patch.edit root path edit disk).2 = disk := by
  unfold Patch.edit editMeanwhile
  unfold Disk.text? at unread
  cases read : disk.read (root ++ path) with
  | error e => rfl
  | ok bytes =>
      rw [read] at unread
      cases decoded : Utf8.decode bytes with
      | error e => simp [decoded]
      | ok text => simp [decoded, Except.toOption] at unread

theorem find?_edit (idle : ∀ text, disk.find? location = some (.file (Utf8.encode text)) →
    (edit text).1 = text) :
    (Patch.edit root path edit disk).2.find? location = disk.find? location := by
  cases read : disk.text? (root ++ path) with
  | none => rw [edit_snd_of_unreadable read]
  | some text =>
      obtain ⟨other, ran, rewritten⟩ := edit_of_readable edit read
      rw [ran, rewritten.node location]
      split
      · rename_i leads
        rw [Disk.text?_eq_bind, Disk.nodeAt?, leads] at read
        obtain ⟨node, there, readable⟩ := Option.bind_eq_some_iff.1 read
        have there : disk.find? location = some (.file (Utf8.encode text)) := by
          rw [← Node.text?_eq_some_iff.1 readable]
          exact there
        rw [there, Option.map_some, Node.mapText_file_encode, idle text there]
      · rfl

theorem keeps_edit {node : Option Node}
    (idle : ∀ text, node = some (.file (Utf8.encode text)) → (edit text).1 = text) :
    DiskAction.Keeps (·.find? location = node) (Patch.edit root path edit) := by
  rintro disk rfl
  exact find?_edit idle

end Patch

namespace Stage

variable {disk : Disk} {root part : Path} {location : Location} {node start : Option Node}
  {component : Component}

open DiskAction

theorem keeps_aliases (settled : Settled node) (root : Path) (testFiles : List Path) :
    Keeps (·.find? location = node) (aliases root testFiles) := by
  rw [aliases_eq]
  refine keeps_each fun file _ => keeps_get.bind fun disk =>
    (Patch.keeps_edit ?_).bind fun _ => keeps_pure _
  rintro text rfl
  obtain ⟨component, plain, rfl⟩ := settled.exists_component
  rw [Alias.resolve_testText plain]

theorem keeps_testImports (settled : Settled node) (root : Path) (testFiles : List Path) :
    Keeps (·.find? location = node) (testImports root testFiles) := by
  rw [testImports_eq]
  refine keeps_each fun file _ => (Patch.keeps_edit ?_).bind fun _ => keeps_pure _
  rintro text rfl
  obtain ⟨component, _, rfl⟩ := settled.exists_component
  rw [TestImports.fix_testText]

theorem scaffolds_generateTest (placed : Component.Placed root disk component)
    (plain : '/' ∉ component.name) (location : Location) :
    disk.Gains (generateTest root component disk).2 ∧
      Scaffolds (disk.find? location) ((generateTest root component disk).2.find? location) := by
  rcases generateTest_cases root placed with
    ⟨_, e, failed⟩ | ⟨_, passed⟩ | ⟨free, _, outcome, written, wrote, _, created⟩
  · rw [failed]
    exact ⟨.refl disk, .same _⟩
  · rw [passed]
    exact ⟨.refl disk, .same _⟩
  · rw [wrote]
    refine ⟨created.gains, ?_⟩
    rw [created.node location]
    split
    · rename_i leads
      rw [Disk.nodeAt?, leads, Option.bind_some] at free
      rw [free]
      exact .generated plain
    · exact .same _

theorem keeps_generateTests (root part : Path) :
    Keeps (fun disk => Scaffolds start (disk.find? location)) (generateTests root (root ++ part)) := by
  intro disk scaffolds
  rw [generateTests_eq]
  cases found : Component.untested disk (root ++ part) with
  | error e => exact scaffolds
  | ok components =>
      simp only
      split
      · exact scaffolds
      · -- every component lies where it was found as long as the disk only gains files
        suffices kept : Keeps (fun middle => disk.Gains middle ∧
            Scaffolds start (middle.find? location)) (each components (generateTest root)) from
          (kept disk ⟨.refl disk, scaffolds⟩).2
        refine keeps_each fun component member middle ⟨gains, before⟩ => ?_
        have placed := (Component.placed_of_untested_below found member).of_same gains.directories
        obtain ⟨more, written⟩ := scaffolds_generateTest placed
          (Component.noSlash_of_mem_untested found member) location
        exact ⟨gains.trans more, before.trans written⟩

end Stage

end DiagnosticRepair
