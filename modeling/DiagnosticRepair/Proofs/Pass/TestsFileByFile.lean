import DiagnosticRepair.Proofs.Pass.Touched

namespace DiagnosticRepair

theorem Node.map_mapText_of_unreadable {f : Text → Text} {node : Option Node}
    (unread : ∀ text, node ≠ some (.file (Utf8.encode text))) : node.map (Node.mapText f) = node := by
  cases node with
  | none => rfl
  | some node =>
      cases readable : node.text? with
      | none => rw [Option.map_some, mapText_of_text?_none readable]
      | some text => exact absurd (congrArg some (text?_eq_some_iff.1 readable)) (unread text)

namespace Pass

variable {settings : Settings} {recorder last : Recorder} {world after : World} {output : Text}
  {report : Report}

def mendedText (here : Location) (root file : Path) (text : Text) : Text :=
  (TestImports.fix (Alias.resolve here text file root Conventions.aliases).1).1

theorem TestRepair.eachMended
    (repair : TestRepair settings recorder world output report last after) (quiet : world.Quiet) :
    Stage.EachMended settings.root repair.testFiles (mendedText world.disk.here settings.root)
      world.disk repair.mended := by
  have apart : Stage.Apart settings.root repair.testFiles world.disk :=
    TestFile.apart_of_find repair.searched
  have aliasRun := repair.aliasRun
  rw [show (updateSnapshots settings world).2.disk = world.disk from
    World.disk_test_of_quiet quiet _] at aliasRun
  have resolved := Stage.eachMended_of_aliases repair.usable apart aliasRun
  have mended := resolved.trans
    (Stage.eachMended_of_testImports repair.usable (apart.of_same resolved.same) repair.importRun)
  refine ⟨mended.same, fun {file location} member leads => ?_, mended.kept⟩
  obtain ⟨found, _, listed⟩ := TestFile.eq_of_find repair.searched
  rw [listed] at member
  obtain ⟨path, _, rfl⟩ := List.mem_map.1 member
  rw [mended.file (listed ▸ member) leads]
  unfold mendedText Stage.resolvedText
  rw [Stage.pathFrom_below]
  rfl

theorem TestRepair.onlyTestsChanged
    (repair : TestRepair settings recorder world output report last after) (quiet : world.Quiet) :
    Component.OnlyTestsChanged world.disk repair.mended := by
  have mended := repair.eachMended quiet
  refine ⟨mended.same, fun above name noTest => mended.kept fun file member leads => ?_⟩
  obtain ⟨above', name', leads', test⟩ := TestFile.exists_place_of_mem_find repair.searched member
  obtain ⟨_, same⟩ := List.append_inj' (Option.some.inj (leads.symm.trans leads')) rfl
  rw [(List.cons.inj same).1, test] at noTest
  cases noTest

theorem tests_work_file_by_file {listening : Bool}
    (failing : (updateSnapshots settings world).1 = .ok (some output)) (quiet : world.Quiet)
    (ended : (tests settings).perform listening world = (.ok (report, last), after)) :
    ∃ testFiles components,
      TestFile.find world.disk settings.testDirectory settings.root = .ok testFiles ∧
      Component.untested world.disk settings.componentsDirectory = .ok components ∧
      (∀ file ∈ testFiles, ∀ bytes text,
        world.disk.nodeAt? (settings.root ++ file) = some (.file bytes) →
        Utf8.decode bytes = .ok text →
        after.disk.nodeAt? (settings.root ++ file) =
          some (.file (Utf8.encode (mendedText world.disk.here settings.root file text)))) ∧
      (∀ component ∈ components, world.disk.nodeAt? component.testPath = none →
        after.disk.nodeAt? component.testPath = some (.file (Utf8.encode component.testText))) ∧
      ∀ location,
        (∀ file ∈ testFiles, ∀ text,
          world.disk.place? (settings.root ++ file) = some location →
          world.disk.find? location ≠ some (.file (Utf8.encode text))) →
        (∀ component ∈ components, world.disk.nodeAt? component.testPath = none →
          world.disk.place? component.testPath ≠ some location) →
        after.disk.find? location = world.disk.find? location := by
  obtain ⟨repair⟩ := testRepair_of_goOn failing ended
  have mended := repair.eachMended quiet
  obtain ⟨components, found, generated⟩ := Stage.eachGenerated_of_generateTests repair.generateRun
  rw [Component.untested_congr (repair.onlyTestsChanged quiet)] at found
  have free_iff {path : Path} : repair.mended.nodeAt? path = none ↔ world.disk.nodeAt? path = none :=
    mended.same.nodeAt?_eq_none_iff
  rw [repair.disk_after quiet]
  refine ⟨repair.testFiles, components, repair.searched, found, ?_, ?_, ?_⟩
  · intro file member bytes text stands decoded
    obtain rfl := Utf8.encode_of_decode decoded
    obtain ⟨location, leads, there⟩ := Disk.nodeAt?_eq_some_iff.1 stands
    refine generated.gains.nodeAt? (Disk.nodeAt?_eq_some_iff.2
      ⟨location, (mended.same.place?_eq _).trans leads, ?_⟩)
    rw [mended.file member leads, there, Option.map_some, Node.mapText_file_encode]
  · exact fun component member free => generated.file member (free_iff.2 free)
  · intro location unread unplaced
    rw [generated.kept]
    · by_cases some_file : ∃ file ∈ repair.testFiles,
          world.disk.place? (settings.root ++ file) = some location
      · obtain ⟨file, member, leads⟩ := some_file
        rw [mended.file member leads]
        exact Node.map_mapText_of_unreadable fun text => unread file member text leads
      · exact mended.kept fun file member leads => some_file ⟨file, member, leads⟩
    · intro component member free
      rw [mended.same.place?_eq]
      exact unplaced component member (free_iff.1 free)

theorem tests_work_file_by_file_untidy :
    ∃ report last after,
      (tests (.ofRoot ⟨.root, []⟩)).perform true untidyWorld = (.ok (report, last), after) ∧
      after.disk.nodeAt? ⟨.root, [.down app, .down failingTest]⟩ = some (.file (Utf8.encode
        ("import \x7b cn \x7d from './_lib/utils';\nimport '@testing-library/jest-dom';\n" ++
          "expect(cn()).toHaveClass('a');\n").toList)) ∧
      (∃ component : Component, component.name = "Kit".toList ∧
        after.disk.nodeAt? component.testPath = some (.file (Utf8.encode component.testText))) ∧
      after.disk.find? [app, components, kit, kitSource] =
        untidyWorld.disk.find? [app, components, kit, kitSource] := by
  obtain ⟨report, last, after, ended, _⟩ := untidyWorld_run
  have failing : (updateSnapshots (.ofRoot ⟨.root, []⟩) untidyWorld).1 =
      .ok (some "failed".toList) := rfl
  obtain ⟨testFiles, found, searched, listed, written, created, kept⟩ :=
    tests_work_file_by_file failing quiet_untidyWorld ended
  have files : (TestFile.find untidyWorld.disk (Settings.ofRoot ⟨.root, []⟩).testDirectory
      (some ⟨.root, []⟩)).toOption = some [⟨.here, [.down app, .down failingTest]⟩] := by
    decide +kernel
  have lists : (Component.untested untidyWorld.disk
      (Settings.ofRoot ⟨.root, []⟩).componentsDirectory).toOption.map (·.map fun component =>
        (component.name, untidyWorld.disk.place? component.testPath,
          untidyWorld.disk.nodeAt? component.testPath)) =
      some [("Kit".toList, some [app, components, kit, Component.testName kit], none)] := by
    decide +kernel
  rw [show (Settings.ofRoot ⟨.root, []⟩).root = ⟨.root, []⟩ from rfl] at searched
  rw [searched] at files
  rw [listed] at lists
  obtain rfl := Option.some.inj files
  obtain ⟨component, rfl, same⟩ := List.map_eq_singleton_iff.1 (Option.some.inj lists)
  rw [Prod.mk.injEq, Prod.mk.injEq] at same
  obtain ⟨name, leads, free⟩ := same
  refine ⟨report, last, after, ended, ?_, ⟨component, name, ?_⟩, ?_⟩
  · have text : mendedText untidyWorld.disk.here ⟨.root, []⟩
        ⟨.here, [.down app, .down failingTest]⟩ failingTestText =
        ("import \x7b cn \x7d from './_lib/utils';\nimport '@testing-library/jest-dom';\n" ++
          "expect(cn()).toHaveClass('a');\n").toList := by
      decide +kernel
    rw [← text]
    exact written _ (List.mem_singleton.2 rfl) (Utf8.encode failingTestText) failingTestText
      (by decide +kernel) (Utf8.decode_encode _)
  · exact created component (List.mem_singleton.2 rfl) free
  · refine kept _ (fun file member text leads' => ?_) fun other member _ leads' => ?_
    · rw [List.mem_singleton.1 member] at leads'
      have elsewhere : untidyWorld.disk.place? (⟨.root, []⟩ ++
          ⟨.here, [.down app, .down failingTest]⟩) ≠ some [app, components, kit, kitSource] := by
        decide +kernel
      exact absurd leads' elsewhere
    · rw [List.mem_singleton.1 member, leads] at leads'
      revert leads'
      decide

end Pass

end DiagnosticRepair
