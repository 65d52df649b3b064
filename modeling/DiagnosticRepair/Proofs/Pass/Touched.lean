import DiagnosticRepair.Proofs.Pass.FileByFile
import DiagnosticRepair.Proofs.Patch.Touched
import DiagnosticRepair.Proofs.TestFile
import DiagnosticRepair.Console.Command

namespace DiagnosticRepair

namespace Pass

variable {settings : Settings} {recorder last : Recorder} {world after : World} {output : Text}
  {report : Report} {path : Path}

theorem touched_fixNotes (diagnostics : List Diagnostic) (renames inserts : Outcome) :
    (fixNotes diagnostics renames inserts).flatMap (·.touched) = renames.touched ++ inserts.touched := by
  simp [fixNotes, logged, Plan.review, Outcome.ofEntry, Outcome.ofEntries]

theorem touched_testFixNotes (aliases imports generated : Outcome) :
    (testFixNotes aliases imports generated).flatMap (·.touched) =
      aliases.touched ++ imports.touched ++ generated.touched := by
  simp [testFixNotes, logged, Outcome.ofEntry, Outcome.ofEntries]

theorem TypeRepair.mem_touched (repair : TypeRepair settings recorder world output report last after) :
    path ∈ report.journal.touched ↔ path ∈ recorder.journal.touched ∨
      path ∈ repair.renames.touched ++ repair.inserts.touched := by
  have journal := (congrArg Report.journal repair.reported).trans
    (congrArg Recorder.journal repair.recorded)
  rw [journal, mem_touched_concluded, Recorder.mem_touched_keepAll, List.flatMap_append,
    List.flatMap_append, touched_foundNotes, touched_fixNotes]
  rfl

theorem TestRepair.mem_touched (repair : TestRepair settings recorder world output report last after) :
    path ∈ report.journal.touched ↔ path ∈ recorder.journal.touched ∨
      path ∈ repair.aliases.touched ++ repair.imports.touched ++ repair.generated.touched := by
  have journal := (congrArg Report.journal repair.reported).trans
    (congrArg Recorder.journal repair.recorded)
  rw [journal, mem_touched_concluded, Recorder.mem_touched_keepAll, List.flatMap_append,
    touched_testFixNotes]
  rfl

theorem TestRepair.usable (repair : TestRepair settings recorder world output report last after) :
    ∀ file ∈ repair.testFiles, (settings.root ++ file).hasNul = false :=
  fun _ => TestFile.noNul_of_mem_find repair.searched

theorem TestRepair.disk_after (repair : TestRepair settings recorder world output report last after)
    (quiet : world.Quiet) : after.disk = repair.fixed := by
  have quiet_then : World.Quiet { (updateSnapshots settings world).2 with disk := repair.fixed } :=
    @World.quiet_test world settings quiet { TestOptions.standard with updateSnapshots := true }
  have unchanged := @World.disk_test_of_quiet _ settings quiet_then TestOptions.standard
  rwa [repair.rerun] at unchanged

variable {listening : Bool}

theorem typecheck_touches (quiet : world.Quiet)
    (ended : (typecheck settings).perform listening world = (.ok (report, last), after)) :
    world.disk.Touches Text.Longer settings.root report.journal.touched after.disk := by
  have idle := @World.disk_check_of_quiet world settings quiet
  rcases ran : World.check settings world with ⟨e | none | output, checked⟩
  · cases (goOn_typecheck_of_error ran).symm.trans ended
  · obtain ⟨log, recorded, clean⟩ := @goOn_typecheck_of_clean settings (.start listening) _ _ ran
    cases clean.symm.trans ended
    rw [ran] at idle
    rw [idle, recorded]
    exact .refl _
  · obtain ⟨repair⟩ := typeRepair_of_goOn (congrArg Prod.fst ran) ended
    have renamed := Stage.touches_of_unusedNames repair.renameRun
    have inserted := Stage.touches_of_imports repair.insertRun
    rw [idle] at renamed
    rw [repair.disk_after quiet]
    refine (renamed.trans Text.Longer.trans inserted).of_mem_iff fun path => ?_
    exact repair.mem_touched.trans (or_iff_right List.not_mem_nil)

theorem tests_touch (quiet : world.Quiet)
    (ended : (tests settings).perform listening world = (.ok (report, last), after)) :
    world.disk.Touches Text.Richer settings.root report.journal.touched after.disk := by
  have idle : (updateSnapshots settings world).2.disk = world.disk :=
    World.disk_test_of_quiet quiet _
  rcases first : (updateSnapshots settings world).1 with e | none | output
  · have ended' := (goOn_tests settings (.start listening) world).symm.trans ended
    have ran : updateSnapshots settings world = (.error e, (updateSnapshots settings world).2) :=
      Prod.ext first rfl
    rw [ran] at ended'
    cases searched : TestFile.find world.disk settings.testDirectory settings.root <;>
      simp [searched] at ended'
  · have ended' := (goOn_tests settings (.start listening) world).symm.trans ended
    have ran : updateSnapshots settings world = (.ok none, (updateSnapshots settings world).2) :=
      Prod.ext first rfl
    rw [ran] at ended'
    cases searched : TestFile.find world.disk settings.testDirectory settings.root with
    | error e => simp [searched] at ended'
    | ok testFiles =>
        simp only [searched, Prod.mk.injEq, Except.ok.injEq] at ended'
        obtain ⟨⟨rfl, _⟩, rfl⟩ := ended'
        rw [idle]
        exact .refl _
  · obtain ⟨repair⟩ := testRepair_of_goOn first ended
    have resolved := Stage.touches_of_aliases repair.usable repair.aliasRun
    have mended := Stage.touches_of_testImports repair.usable repair.importRun
    have generated := Stage.touches_of_generateTests Text.Richer.trans repair.generateRun
    rw [idle] at resolved
    rw [repair.disk_after quiet]
    refine ((resolved.trans Text.Richer.trans mended).trans Text.Richer.trans
      generated).of_mem_iff fun path => ?_
    exact repair.mem_touched.trans (or_iff_right List.not_mem_nil)

end Pass

theorem Command.touched_exactly {command : Command} {settings : Settings} {world after : World}
    {listening : Bool} {report : Report} {last : Recorder} (quiet : world.Quiet)
    (ended : (command.pass settings).perform listening world = (.ok (report, last), after)) :
    (∀ path ∈ report.journal.touched,
      ∃ bytes, after.disk.nodeAt? (settings.root ++ path) = some (.file bytes)) ∧
    ∀ location, (∃ path ∈ report.journal.touched,
        after.disk.place? (settings.root ++ path) = some location) ↔
      after.disk.find? location ≠ world.disk.find? location := by
  cases command with
  | typecheck =>
      have touches := Pass.typecheck_touches quiet ended
      exact ⟨fun _ => touches.isFile, touches.exact Text.Longer.irrefl⟩
  | tests =>
      have touches := Pass.tests_touch quiet ended
      exact ⟨fun _ => touches.isFile, touches.exact Text.Richer.irrefl⟩

namespace Pass

def app : FileName := ⟨"app", by decide⟩

def components : FileName := ⟨"_components", by decide⟩

def kit : FileName := ⟨"kit", by decide⟩

def kitSource : FileName := ⟨"Kit.tsx", by decide⟩

def failingTest : FileName := ⟨"a.test.tsx", by decide⟩

def failingTestText : Text :=
  "import \x7b cn \x7d from '@/lib/utils';\nexpect(cn()).toHaveClass('a');\n"

def untidyWorld : World where
  disk := (((((Disk.empty []).put [] app .directory).put [app] failingTest
    (.file (Utf8.encode failingTestText))).put [app] components .directory).put
    [app, components] kit .directory).put [app, components, kit] kitSource
    (.file (Utf8.encode "export default Kit;\n".toList))
  script := [⟨.exited 1 "failed" [], id⟩]
  calls := []

theorem untidyWorld_run :
    ∃ report last after,
      (Command.tests.pass (.ofRoot ⟨.root, []⟩)).perform true untidyWorld =
        (.ok (report, last), after) ∧
      (report.journal.touched.any (fun path =>
          after.disk.place? (⟨.root, []⟩ ++ path) = some [app, failingTest]) &&
        after.disk.find? [app, components, kit, kitSource] =
          untidyWorld.disk.find? [app, components, kit, kitSource]) = true :=
  exists_of_perform_holds _ (by decide +kernel)

theorem quiet_untidyWorld : untidyWorld.Quiet :=
  World.quiet_of_script rfl

end Pass

open Pass in
theorem Command.touched_exactly_untidy :
    ∃ report last after,
      (tests.pass (.ofRoot ⟨.root, []⟩)).perform true untidyWorld = (.ok (report, last), after) ∧
      after.disk.find? [app, failingTest] ≠ untidyWorld.disk.find? [app, failingTest] ∧
      (∀ path ∈ report.journal.touched,
        after.disk.place? (⟨.root, []⟩ ++ path) ≠ some [app, components, kit, kitSource]) := by
  obtain ⟨report, last, after, ended, holds⟩ := untidyWorld_run
  rw [Bool.and_eq_true, List.any_eq_true, decide_eq_true_eq] at holds
  obtain ⟨⟨path, touched, leads⟩, kept⟩ := holds
  obtain ⟨_, exactly⟩ := touched_exactly quiet_untidyWorld ended
  exact ⟨report, last, after, ended, (exactly _).1 ⟨path, touched, of_decide_eq_true leads⟩,
    fun path touched leads => (exactly _).1 ⟨path, touched, leads⟩ kept⟩

end DiagnosticRepair
