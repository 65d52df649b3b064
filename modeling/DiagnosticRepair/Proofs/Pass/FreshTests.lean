import DiagnosticRepair.Proofs.Patch.FreshTests
import DiagnosticRepair.Proofs.Pass.Touched

namespace DiagnosticRepair

namespace World

variable {world : World} {location : Location}

def Spares (world : World) (location : Location) : Prop :=
  ∀ run ∈ world.script, ∀ disk, (run.effect disk).find? location = disk.find? location

theorem Quiet.spares (quiet : world.Quiet) (location : Location) : world.Spares location :=
  fun run member disk => congrArg (·.find? location) (quiet run member disk)

theorem find?_call_of_spares (spares : world.Spares location) (words : List Text)
    (directory : Path) :
    (call words directory world).2.disk.find? location = world.disk.find? location := by
  refine call_keeps (fun after => after.disk.find? location = world.disk.find? location) rfl
    (fun _ => ?_) words directory
  show ((world.script.head?.getD .clean).effect world.disk).find? location = _
  cases runs : world.script with
  | nil => rfl
  | cons run rest => exact spares run (runs ▸ List.mem_cons_self ..) world.disk

theorem spares_call (spares : world.Spares location) (words : List Text) (directory : Path) :
    (call words directory world).2.Spares location :=
  call_keeps (·.Spares location) spares
    (fun _ run member => spares run (List.mem_of_mem_tail member)) words directory

end World

namespace Pass

variable {α β : Type} {Kept : World → Prop} {pass : Pass α} {next : α → Pass β}

def Keeps (Kept : World → Prop) (pass : Pass α) : Prop :=
  ∀ recorder world, Kept world → Kept (goOn pass recorder world).2

theorem keeps_keep (outcome : Outcome) : Keeps Kept (keep outcome) :=
  fun _ _ kept => kept

theorem Keeps.bind (h : Keeps Kept pass) (h' : ∀ value, Keeps Kept (next value)) :
    Keeps Kept (pass >>= next) := by
  intro recorder world kept
  have first := h recorder world kept
  rw [goOn_bind]
  rcases ran : goOn pass recorder world with ⟨fault | ⟨value, middle⟩, between⟩
  · rwa [ran] at first
  · rw [ran] at first
    exact h' value middle between first

structure Undisturbed (location : Location) (start : Option Node) (world : World) : Prop where
  spares : world.Spares location
  scaffolds : Scaffolds start (world.disk.find? location)

variable {location : Location} {start : Option Node} {world : World}

theorem Undisturbed.test (h : Undisturbed location start world) (settings : Settings)
    (options : TestOptions) : Undisturbed location start (World.test settings options world).2 := by
  refine ⟨World.spares_call h.spares _ _, ?_⟩
  rw [World.test, World.find?_call_of_spares h.spares]
  exact h.scaffolds

theorem keeps_onDisk {action : DiskAction α}
    (h : DiskAction.Keeps (fun disk => Scaffolds start (disk.find? location)) action) :
    Keeps (Undisturbed location start) (onDisk action) := by
  intro recorder world kept
  have scaffolds := h world.disk kept.scaffolds
  rw [goOn_onDisk]
  rcases ran : action world.disk with ⟨e | value, disk⟩ <;>
  · rw [ran] at scaffolds
    exact ⟨kept.spares, scaffolds⟩

theorem keeps_scaffolds {action : DiskAction α} (settled : Settled start)
    (h : ∀ {node}, Settled node → DiskAction.Keeps (·.find? location = node) action) :
    DiskAction.Keeps (fun disk => Scaffolds start (disk.find? location)) action := by
  intro disk scaffolds
  rw [h (settled.of_scaffolds scaffolds) disk rfl]
  exact scaffolds

theorem keeps_fixTests (settled : Settled start) (settings : Settings) (testFiles : List Path) :
    Keeps (Undisturbed location start) (fixTests settings testFiles) :=
  .bind (keeps_keep _) fun _ =>
  .bind (keeps_onDisk (keeps_scaffolds settled fun now => Stage.keeps_aliases now _ _)) fun _ =>
  .bind (keeps_keep _) fun _ => .bind (keeps_keep _) fun _ =>
  .bind (keeps_onDisk (keeps_scaffolds settled fun now => Stage.keeps_testImports now _ _)) fun _ =>
  .bind (keeps_keep _) fun _ => .bind (keeps_keep _) fun _ =>
  .bind (keeps_onDisk (Stage.keeps_generateTests _ _)) fun _ => keeps_keep _

theorem keeps_conclude {tool announcement tally : Text} {inFull : Bool} {settings : Settings}
    {options : TestOptions} {diagnostics : List Diagnostic} :
    Keeps (Undisturbed location start) (conclude tool inFull announcement tally settings
      (World.test settings options) diagnostics) := by
  intro recorder world kept
  have asked := kept.test settings options
  rw [goOn_conclude]
  rcases ran : World.test settings options world with ⟨e | output, between⟩
  · rwa [ran] at asked
  · rw [ran] at asked
    simp only
    cases remainingOf output <;> exact asked

theorem keeps_tests (settled : Settled start) (settings : Settings) :
    Keeps (Undisturbed location start) (tests settings) := by
  intro recorder world kept
  rw [goOn_tests]
  cases TestFile.find world.disk settings.testDirectory settings.root with
  | error e => exact kept
  | ok testFiles =>
      have asked : Undisturbed location start (updateSnapshots settings world).2 :=
        kept.test settings _
      rcases ran : updateSnapshots settings world with ⟨e | none | output, between⟩
      · rwa [ran] at asked
      · rwa [ran] at asked
      · rw [ran] at asked
        simp only
        cases Diagnostic.parse output with
        | error e => exact asked
        | ok diagnostics =>
            exact (keeps_fixTests settled settings testFiles).bind (fun _ => keeps_conclude)
              _ between asked

theorem scaffolds_of_tests {settings : Settings} {listening : Bool}
    (settled : Settled (world.disk.find? location)) (spares : world.Spares location) :
    Scaffolds (world.disk.find? location)
      (((tests settings).perform listening world).2.disk.find? location) :=
  (keeps_tests settled settings (.start listening) world ⟨spares, .same _⟩).scaffolds

theorem unreported_of_same {settings : Settings} {listening : Bool} {report : Report}
    {last : Recorder} {after : World} (quiet : world.Quiet)
    (ended : (tests settings).perform listening world = (.ok (report, last), after))
    (same : after.disk.find? location = world.disk.find? location) :
    ∀ path ∈ report.journal.touched, after.disk.place? (settings.root ++ path) ≠ some location := by
  intro path touched leads
  exact ((tests_touch quiet ended).exact Text.Richer.irrefl location).1 ⟨path, touched, leads⟩ same

theorem tests_leave_generated_tests :
    (∀ component : Component,
      TestImports.fix component.testText = (component.testText, [])) ∧
    (∀ component : Component, '/' ∉ component.name →
      ∀ (here : Location) (testFile root : Path) (table : List (Text × Text)),
        Alias.resolve here component.testText testFile root table = (component.testText, [])) ∧
    ∀ (settings : Settings) (listening : Bool) (world : World) (location : Location) (node : Node),
      world.Spares location → world.disk.find? location = none →
      ((tests settings).perform listening world).2.disk.find? location = some node →
      (∃ component : Component, '/' ∉ component.name ∧
        node = .file (Utf8.encode component.testText)) ∧
      ∀ (later : Settings) (listening' : Bool) (world' : World),
        world'.Spares location → world'.disk.find? location = some node →
        ((tests later).perform listening' world').2.disk.find? location = some node ∧
        ∀ report last after, world'.Quiet →
          (tests later).perform listening' world' = (.ok (report, last), after) →
          ∀ path ∈ report.journal.touched,
            after.disk.place? (later.root ++ path) ≠ some location := by
  refine ⟨TestImports.fix_testText, fun _ => Alias.resolve_testText, ?_⟩
  intro settings listening world location node spares free new
  have scaffolds := @scaffolds_of_tests _ _ settings listening (free ▸ .free) spares
  rw [free, new] at scaffolds
  obtain ⟨component, plain, rfl⟩ := scaffolds.exists_component
  refine ⟨⟨component, plain, rfl⟩, fun later listening' world' spares' there => ?_⟩
  have again := @scaffolds_of_tests _ _ later listening' (there ▸ .generated plain) spares'
  rw [there] at again
  have kept := again.eq_of_some
  refine ⟨kept, fun report last after quiet ended => ?_⟩
  rw [ended] at kept
  exact unreported_of_same quiet ended (kept.trans there.symm)

def spliced : Component where
  directory := "app/kit"
  source := "app/kit/Kit.tsx"
  name := "a\nimport \x7b b \x7d from '@"
  defaultExport := false

def kitTest : Location :=
  [app, components, kit, Component.testName kit]

def kitWorld : World where
  disk := ((((Disk.empty []).put [] app .directory).put [app] components .directory).put
    [app, components] kit .directory).put [app, components, kit] kitSource
    (.file (Utf8.encode "export default Kit;\n".toList))
  script := [⟨.exited 1 "failed" [], id⟩]
  calls := []

theorem quiet_kitWorld : kitWorld.Quiet :=
  World.quiet_of_script rfl

theorem kitWorld_generates :
    ∃ report last after, (tests (.ofRoot ⟨.root, []⟩)).perform true kitWorld =
        (.ok (report, last), after) ∧
      ((after.disk.find? kitTest).isSome && ((tests (.ofRoot ⟨.root, []⟩)).perform true
        { kitWorld with disk := after.disk }).1.toOption.isSome) = true :=
  exists_of_perform_holds (fun _ after => (after.disk.find? kitTest).isSome &&
    ((tests (.ofRoot ⟨.root, []⟩)).perform true
      { kitWorld with disk := after.disk }).1.toOption.isSome) (by decide +kernel)

theorem tests_leave_generated_tests_kit :
    (Alias.resolve [] spliced.testText ⟨.here, []⟩ ⟨.root, []⟩ Conventions.aliases).1 =
      spliced.testText ∧
    kitWorld.disk.find? kitTest = none ∧
    ∃ report last after node, (tests (.ofRoot ⟨.root, []⟩)).perform true kitWorld =
        (.ok (report, last), after) ∧
      after.disk.find? kitTest = some node ∧
      ∃ report' last' after', (tests (.ofRoot ⟨.root, []⟩)).perform true
          { kitWorld with disk := after.disk } = (.ok (report', last'), after') ∧
        after'.disk.find? kitTest = some node ∧
        ∀ path ∈ report'.journal.touched, after'.disk.place? (⟨.root, []⟩ ++ path) ≠ some kitTest := by
  obtain ⟨_, resolved, later⟩ := tests_leave_generated_tests
  obtain ⟨report, last, after, ended, holds⟩ := kitWorld_generates
  rw [Bool.and_eq_true] at holds
  obtain ⟨node, there⟩ := Option.isSome_iff_exists.1 holds.1
  obtain ⟨report', last', after', ended'⟩ := exists_of_perform holds.2
  have free : kitWorld.disk.find? kitTest = none := by decide +kernel
  have quiet : World.Quiet { kitWorld with disk := after.disk } := quiet_kitWorld
  obtain ⟨_, leaves⟩ := later (.ofRoot ⟨.root, []⟩) true kitWorld kitTest node
    (quiet_kitWorld.spares _) free (by rw [ended]; exact there)
  obtain ⟨kept, unreported⟩ := leaves (.ofRoot ⟨.root, []⟩) true _ (quiet.spares _) there
  rw [ended'] at kept
  refine ⟨?_, free, report, last, after, node, ended, there, report', last', after', ended', kept,
    unreported report' last' after' quiet ended'⟩
  rw [resolved spliced (by decide)]

end Pass

end DiagnosticRepair
