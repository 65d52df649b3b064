import DiagnosticRepair.Proofs.Patch.Generation
import DiagnosticRepair.Disk.Install

namespace DiagnosticRepair.Stage

open Component

theorem stages_isolate_failures (root : Path) (disk : Disk) :
    (∀ names file, (∃ unused ∈ names, unused.file = file) →
      disk.text? (named root file) = none →
      Isolates disk (named root file) (Reports "fix unused variables" file)
        (unusedNames root names) (unusedNames root (names.filter (·.file ≠ file)))) ∧
    (∀ before file statements after, disk.text? (named root file) = none →
      Isolates disk (named root file) (Reports "fix imports" file)
        (imports root (before ++ (file, statements) :: after)) (imports root (before ++ after))) ∧
    (root.isAbsolute = true → ∀ part,
      (Returns (generateTests root (root ++ part)) disk ↔
        ¬ SearchStops disk (root ++ part) ∧ ∀ name, Lacks disk (root ++ part) name →
          ¬ disk.TooLong (testPathIn ((root ++ part).child name))) ∧
      ∀ before component after,
        untested disk (root ++ part) = .ok (before ++ component :: after) →
        (disk.nodeAt? component.testPath).isSome = true → ∀ outcome other,
          each (before ++ component :: after) (generateTest root) disk = (.ok outcome, other) ↔
            each (before ++ after) (generateTest root) disk = (.ok outcome, other)) := by
  refine ⟨fun names file planned refused => isolates_in_unusedNames planned refused,
    fun before file statements after refused => isolates_in_imports refused,
    fun absolute part => ⟨generateTests_returns_iff absolute, ?_⟩⟩
  intro before component after found taken outcome other
  obtain ⟨node, stands⟩ := Option.isSome_iff_exists.1 taken
  exact each_generateTest_without_taken
    (fun chosen member => placed_of_untested absolute found member) stands

def cnImport : Text := "import \x7b cn \x7d from '@/lib/utils';"

def brokenDisk : Disk :=
  [(("/a.tsx" : Path), Node.file (Utf8.encode "cn();\n".toList)),
    ("/kit/card/Card.tsx", .file []), ("/kit/card/card.test.tsx", .directory),
    ("/kit/list/List.tsx", .file [])].foldl
    (fun disk entry => disk.install (entry.1.location []) entry.2) (.empty [])

def brokenComponents : List Component :=
  (untested brokenDisk "/kit").toOption.getD []

theorem stages_isolate_failures_broken :
    (∃ outcome rest other,
      imports ⟨.root, []⟩ [("gone.tsx", [cnImport]), ("a.tsx", [cnImport])] brokenDisk =
        (.ok outcome, other) ∧
      imports ⟨.root, []⟩ [("a.tsx", [cnImport])] brokenDisk = (.ok rest, other) ∧
      OneLineMore (Reports "fix imports" "gone.tsx") outcome rest) ∧
    Isolates brokenDisk (named ⟨.root, []⟩ "kit") (Reports "fix unused variables" "kit")
      (unusedNames ⟨.root, []⟩ [⟨"kit", "x", 1⟩, ⟨"a.tsx", "cn", 1⟩])
      (unusedNames ⟨.root, []⟩ [⟨"a.tsx", "cn", 1⟩]) ∧
    (∃ component rest, brokenComponents = component :: rest ∧ ∀ outcome other,
      each brokenComponents (generateTest ⟨.root, []⟩) brokenDisk = (.ok outcome, other) ↔
        each rest (generateTest ⟨.root, []⟩) brokenDisk = (.ok outcome, other)) := by
  obtain ⟨names, files, tests⟩ := stages_isolate_failures ⟨.root, []⟩ brokenDisk
  refine ⟨?_, ?_, ?_⟩
  · have isolates := files [] "gone.tsx" [cnImport] [("a.tsx", [cnImport])] (by decide +kernel)
    have returns : (imports ⟨.root, []⟩ [("gone.tsx", [cnImport]), ("a.tsx", [cnImport])]
        brokenDisk).1.toOption.isSome = true := by
      decide +kernel
    obtain ⟨outcome, other, ran⟩ := returns_of_isSome returns
    obtain ⟨rest, ran_rest, more, _⟩ := isolates.agrees ran
    exact ⟨outcome, rest, other, ran, ran_rest, more⟩
  · exact names [⟨"kit", "x", 1⟩, ⟨"a.tsx", "cn", 1⟩] "kit"
      ⟨_, List.mem_cons_self .., rfl⟩ (by decide +kernel)
  · have found : untested brokenDisk "/kit" = .ok brokenComponents := by
      have some_found : (untested brokenDisk "/kit").toOption.isSome = true := by decide +kernel
      unfold brokenComponents
      cases asked : untested brokenDisk "/kit" with
      | error e =>
          rw [asked] at some_found
          cases some_found
      | ok components => rfl
    have first_taken : brokenComponents.head?.map
        (fun component => (brokenDisk.nodeAt? component.testPath).isSome) = some true := by
      decide +kernel
    cases split : brokenComponents with
    | nil =>
        rw [split] at first_taken
        cases first_taken
    | cons component rest =>
        rw [split] at found first_taken
        exact ⟨component, rest, rfl,
          (tests rfl "kit").2 [] component rest found (Option.some.inj first_taken)⟩

def longName : Text :=
  List.replicate 260 'x' ++ ".tsx".toList

theorem imports_not_isolated_from_longName :
    brokenDisk.text? (named ⟨.root, []⟩ longName) = none ∧
      Returns (imports ⟨.root, []⟩ [("a.tsx", [cnImport])]) brokenDisk ∧
      ¬ Returns (imports ⟨.root, []⟩ [(longName, [cnImport]), ("a.tsx", [cnImport])]) brokenDisk := by
  have returns : (imports ⟨.root, []⟩ [("a.tsx", [cnImport])] brokenDisk).1.toOption.isSome = true := by
    decide +kernel
  have refused : (imports ⟨.root, []⟩ [(longName, [cnImport]), ("a.tsx", [cnImport])]
      brokenDisk).1.toOption.isSome = false := by
    decide +kernel
  refine ⟨by decide +kernel, returns_of_isSome returns, ?_⟩
  rintro ⟨outcome, other, ran⟩
  rw [ran] at refused
  cases refused

end DiagnosticRepair.Stage
