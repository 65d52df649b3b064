import DiagnosticRepair.Proofs.Pass.Accounting
import DiagnosticRepair.Proofs.Diagnostic.Digits
import DiagnosticRepair.Proofs.Patch.Isolation
import DiagnosticRepair.Proofs.Patch.Generation
import DiagnosticRepair.Proofs.Patch.TestFixes
import DiagnosticRepair.Proofs.TestFile

namespace DiagnosticRepair

namespace Recorder

theorem isComplete_keep {recorder : Recorder} (h : recorder.isComplete = true) (outcome : Outcome) :
    (recorder.keep outcome).isComplete = true := by
  unfold isComplete at h ⊢
  rw [Bool.and_eq_true, decide_eq_true_eq] at h
  simp [keep, Journal.extend, h.1, h.2]

theorem isComplete_keepAll (outcomes : List Outcome) : ∀ {recorder : Recorder},
    recorder.isComplete = true → (recorder.keepAll outcomes).isComplete = true := by
  induction outcomes with
  | nil => exact fun h => h
  | cons outcome rest ih => exact fun h => ih (isComplete_keep h outcome)

theorem emitted_of_isComplete {recorder : Recorder} (h : recorder.isComplete = true) :
    recorder.emitted = recorder.journal.entries := by
  unfold isComplete at h
  rw [Bool.and_eq_true, decide_eq_true_eq] at h
  exact h.2

end Recorder

namespace Pass

variable {α β : Type} {settings : Settings} {recorder last : Recorder} {world after : World}
  {report : Report}

def Completes (pass : Pass α) (recorder : Recorder) (world : World) : Prop :=
  ∃ value last after, goOn pass recorder world = (.ok (value, last), after)

theorem not_completes_of_error {pass : Pass α} {fault : Fault}
    (ended : goOn pass recorder world = (.error fault, after)) :
    ¬ Completes pass recorder world := by
  rintro ⟨_, _, _, ended'⟩
  cases ended.symm.trans ended'

theorem completes_bind_iff {pass : Pass α} {next : α → Pass β} :
    Completes (pass >>= next) recorder world ↔ ∃ value last after,
      goOn pass recorder world = (.ok (value, last), after) ∧ Completes (next value) last after := by
  constructor
  · rintro ⟨value, last, after, ended⟩
    obtain ⟨first, middle, between, ran, going⟩ := exists_of_goOn_bind ended
    exact ⟨first, middle, between, ran, value, last, after, going⟩
  · rintro ⟨first, middle, between, ran, value, last, after, going⟩
    refine ⟨value, last, after, ?_⟩
    rw [goOn_bind, ran]
    exact going

inductive TypecheckStops (settings : Settings) (world : World) : Prop where
  | nul : Call.hasNul ⟨settings.checkerCommand, settings.root⟩ = true →
      TypecheckStops settings world
  | firstRun : ∀ {e : Utf8.DecodeError}, (world.run 0).result = .undecodable e →
      TypecheckStops settings world
  | firstOutput : ∀ {output : Text}, (World.check settings world).1 = .ok (some output) →
      Diagnostic.Overlong output → TypecheckStops settings world
  | fileName : ∀ {output : Text} {diagnostics : List Diagnostic} {d : Diagnostic},
      (World.check settings world).1 = .ok (some output) →
      Diagnostic.parse output = .ok diagnostics →
      d ∈ diagnostics → (Remedy.ofDiagnostic d).isFixable = true →
      (World.check settings world).2.disk.TooLong (Stage.named settings.root d.file) →
      TypecheckStops settings world
  | lastRun : ∀ {output : Text} {e : Utf8.DecodeError},
      (World.check settings world).1 = .ok (some output) →
      (world.run 1).result = .undecodable e → TypecheckStops settings world
  | lastOutput : ∀ {output again : Text}, (World.check settings world).1 = .ok (some output) →
      (World.check settings (World.check settings world).2).1 = .ok (some again) →
      Diagnostic.Overlong again → TypecheckStops settings world

inductive TestsStop (settings : Settings) (world : World) : Prop where
  | search : TestFile.SearchStops world.disk settings.testDirectory → TestsStop settings world
  | nul : Call.hasNul ⟨settings.testCommand, settings.root⟩ = true → TestsStop settings world
  | firstRun : ∀ {e : Utf8.DecodeError}, (world.run 0).result = .undecodable e →
      TestsStop settings world
  | firstOutput : ∀ {output : Text}, (updateSnapshots settings world).1 = .ok (some output) →
      Diagnostic.Overlong output → TestsStop settings world
  | components : ∀ {output : Text}, (updateSnapshots settings world).1 = .ok (some output) →
      Component.SearchStops (updateSnapshots settings world).2.disk settings.componentsDirectory →
      TestsStop settings world
  | testName : ∀ {output : Text} {name : FileName},
      (updateSnapshots settings world).1 = .ok (some output) →
      Component.Lacks (updateSnapshots settings world).2.disk settings.componentsDirectory name →
      (updateSnapshots settings world).2.disk.TooLong
        (Component.testPathIn (settings.componentsDirectory.child name)) →
      TestsStop settings world
  | lastRun : ∀ {output : Text} {e : Utf8.DecodeError},
      (updateSnapshots settings world).1 = .ok (some output) →
      (world.run 1).result = .undecodable e → TestsStop settings world
  | lastOutput : ∀ {output again : Text}, (updateSnapshots settings world).1 = .ok (some output) →
      (World.test settings TestOptions.standard (updateSnapshots settings world).2).1 =
        .ok (some again) →
      Diagnostic.Overlong again → TestsStop settings world

theorem hasNul_flagged (settings : Settings) (updating : Bool) :
    Call.hasNul ⟨settings.testCommand ++
      { TestOptions.standard with updateSnapshots := updating }.words, settings.root⟩ =
      Call.hasNul ⟨settings.testCommand, settings.root⟩ := by
  have plain : { TestOptions.standard with updateSnapshots := updating }.words.any
      (·.contains '\x00') = false := by
    cases updating <;> decide
  simp only [Call.hasNul, List.any_append, plain, Bool.or_false]

theorem flagged_ne_nil (settings : Settings) (updating : Bool) :
    settings.testCommand ++ { TestOptions.standard with updateSnapshots := updating }.words ≠ [] := by
  cases updating <;> simp [TestOptions.words, TestOptions.standard]

theorem error?_flagged_eq_none_iff (settings : Settings) (updating : Bool) :
    Call.error? ⟨settings.testCommand ++
      { TestOptions.standard with updateSnapshots := updating }.words, settings.root⟩ = none ↔
      Call.hasNul ⟨settings.testCommand, settings.root⟩ = false := by
  rw [Call.error?_eq_none_iff, hasNul_flagged]
  exact and_iff_right (flagged_ne_nil settings updating)

theorem rereads_iff {answer : Except CallError (Option Text)} :
    (∃ output remaining, answer = .ok output ∧ remainingOf output = .ok remaining) ↔
      (∃ output, answer = .ok output) ∧
        ∀ text, answer = .ok (some text) → ¬ Diagnostic.Overlong text := by
  rcases answer with e | none | text
  · simp
  · simp [remainingOf]
  · rw [and_iff_right ⟨_, rfl⟩]
    constructor
    · rintro ⟨output, remaining, same, left⟩ again same'
      cases same
      cases same'
      exact Diagnostic.parse_returns_iff.1 ⟨remaining, left⟩
    · intro readable
      obtain ⟨remaining, left⟩ := Diagnostic.parse_returns_iff.2 (readable text rfl)
      exact ⟨_, remaining, rfl, left⟩

theorem isFixable_iff {d : Diagnostic} : (Remedy.ofDiagnostic d).isFixable = true ↔
    (∃ unused, Plan.unusedName? d = some unused) ∨ ∃ statement, Plan.statement? d = some statement := by
  unfold Plan.unusedName? Plan.statement?
  cases Remedy.ofDiagnostic d <;> simp [Remedy.statement?, Remedy.isFixable]

theorem completes_fixTypes_iff {diagnostics : List Diagnostic} :
    Completes (fixTypes settings diagnostics) recorder world ↔
      ∃ renames renamed, Stage.unusedNames settings.root (Plan.unusedNames diagnostics) world.disk =
        (.ok renames, renamed) ∧
        Stage.Returns (Stage.imports settings.root (Plan.imports diagnostics)) renamed := by
  rcases renameRun : Stage.unusedNames settings.root (Plan.unusedNames diagnostics) world.disk with
    ⟨e | renames, renamed⟩
  · refine iff_of_false (not_completes_of_error (by rw [goOn_fixTypes, renameRun])) ?_
    rintro ⟨_, _, ran, _⟩
    cases ran
  · rcases insertRun : Stage.imports settings.root (Plan.imports diagnostics) renamed with
      ⟨e | inserts, fixed⟩
    · have ended := goOn_fixTypes settings diagnostics recorder world
      simp only [renameRun, insertRun] at ended
      refine iff_of_false (not_completes_of_error ended) ?_
      rintro ⟨_, _, ran, _, _, inserted⟩
      cases ran
      cases insertRun.symm.trans inserted
    · have ended := goOn_fixTypes settings diagnostics recorder world
      simp only [renameRun, insertRun] at ended
      exact iff_of_true ⟨_, _, _, ended⟩ ⟨_, _, rfl, _, _, insertRun⟩

theorem fixTypes_completes_iff {diagnostics : List Diagnostic} :
    Completes (fixTypes settings diagnostics) recorder world ↔
      ∀ d ∈ diagnostics, (Remedy.ofDiagnostic d).isFixable = true →
        ¬ world.disk.TooLong (Stage.named settings.root d.file) := by
  rw [completes_fixTypes_iff]
  constructor
  · rintro ⟨renames, renamed, renameRun, inserted⟩ d member fixable
    rcases isFixable_iff.1 fixable with ⟨unused, asked⟩ | ⟨statement, asked⟩
    · have short := Stage.unusedNames_returns_iff.1 ⟨renames, renamed, renameRun⟩ unused
        (Plan.mem_unusedNames.2 ⟨d, member, asked⟩)
      rwa [Plan.file_of_unusedName? asked] at short
    · obtain ⟨wanted, listed, _⟩ := Plan.exists_group_of_statement? member asked
      have short := Stage.imports_returns_iff.1 inserted _ listed
      rwa [(Stage.sameButTexts_of_unusedNames renameRun).sameDirectories.tooLong_iff] at short
  · intro short
    obtain ⟨renames, renamed, renameRun⟩ : Stage.Returns
        (Stage.unusedNames settings.root (Plan.unusedNames diagnostics)) world.disk := by
      refine Stage.unusedNames_returns_iff.2 fun unused planned => ?_
      obtain ⟨d, member, asked⟩ := Plan.mem_unusedNames.1 planned
      rw [Plan.file_of_unusedName? asked]
      exact short d member (isFixable_iff.2 (.inl ⟨unused, asked⟩))
    refine ⟨renames, renamed, renameRun, Stage.imports_returns_iff.2 fun group planned => ?_⟩
    obtain ⟨d, member, same, statement⟩ :=
      Plan.mem_keys_imports.1 (List.mem_map.2 ⟨group, planned, rfl⟩)
    rw [(Stage.sameButTexts_of_unusedNames renameRun).sameDirectories.tooLong_iff, ← same]
    exact short d member (isFixable_iff.2 (.inr (Option.isSome_iff_exists.1 statement)))

section

variable {rerun : World → Except CallError (Option Text) × World}

theorem conclude_completes_iff (tool : Text) (inFull : Bool) (announcement tally : Text)
    (settings : Settings) (diagnostics : List Diagnostic) :
    Completes (conclude tool inFull announcement tally settings rerun diagnostics) recorder world ↔
      ∃ output remaining, (rerun world).1 = .ok output ∧ remainingOf output = .ok remaining := by
  have ended :=
    goOn_conclude tool inFull announcement tally settings rerun diagnostics recorder world
  rcases reran : rerun world with ⟨e | output, finish⟩
  · rw [reran] at ended
    refine iff_of_false (not_completes_of_error ended) ?_
    rintro ⟨_, _, ran, _⟩
    cases ran
  · cases left : remainingOf output with
    | error e =>
        simp only [reran, left] at ended
        refine iff_of_false (not_completes_of_error ended) ?_
        rintro ⟨_, _, ran, other⟩
        cases ran
        cases left.symm.trans other
    | ok remaining =>
        simp only [reran, left] at ended
        exact iff_of_true ⟨_, _, _, ended⟩ ⟨_, _, rfl, left⟩

theorem fix_conclude_completes_iff {fix : Pass Unit}
    (keeps : ∀ {recorder world value last after},
      goOn fix recorder world = (.ok (value, last), after) → (rerun after).1 = (rerun world).1)
    (tool : Text) (inFull : Bool) (announcement tally : Text) (settings : Settings)
    (diagnostics : List Diagnostic) :
    Completes (do fix; conclude tool inFull announcement tally settings rerun diagnostics)
        recorder world ↔
      Completes fix recorder world ∧ ∃ output remaining, (rerun world).1 = .ok output ∧
        remainingOf output = .ok remaining := by
  rw [completes_bind_iff]
  constructor
  · rintro ⟨value, last, after, ran, concluded⟩
    rw [conclude_completes_iff, keeps ran] at concluded
    exact ⟨⟨value, last, after, ran⟩, concluded⟩
  · rintro ⟨⟨value, last, after, ran⟩, readable⟩
    refine ⟨value, last, after, ran, ?_⟩
    rwa [conclude_completes_iff, keeps ran]

end

theorem world_of_fixTypes {diagnostics : List Diagnostic} {value : Unit}
    (ended : goOn (fixTypes settings diagnostics) recorder world = (.ok (value, last), after)) :
    after.script = world.script := by
  rw [goOn_fixTypes] at ended
  rcases renameRun : Stage.unusedNames settings.root (Plan.unusedNames diagnostics) world.disk with
    ⟨e | renames, renamed⟩
  · rw [renameRun] at ended
    cases ended
  · simp only [renameRun] at ended
    rcases insertRun : Stage.imports settings.root (Plan.imports diagnostics) renamed with
      ⟨e | inserts, fixed⟩
    · rw [insertRun] at ended
      cases ended
    · rw [insertRun] at ended
      cases ended
      rfl

theorem typecheck_completes_of_failing {output : Text} {diagnostics : List Diagnostic}
    (failing : (World.check settings world).1 = .ok (some output))
    (parsed : Diagnostic.parse output = .ok diagnostics) :
    Completes (typecheck settings) recorder world ↔
      (∀ d ∈ diagnostics, (Remedy.ofDiagnostic d).isFixable = true →
        ¬ (World.check settings world).2.disk.TooLong (Stage.named settings.root d.file)) ∧
      (∀ e, (world.run 1).result ≠ .undecodable e) ∧
      ∀ again, (World.check settings (World.check settings world).2).1 = .ok (some again) →
        ¬ Diagnostic.Overlong again := by
  have made := World.error?_of_ok failing
  have again : (World.check settings (World.check settings world).2).1 =
      (world.run 1).result.answer settings.checkerCommand :=
    World.fst_call_call_of_none made made
  have keeps : ∀ {recorder world value last after},
      goOn (fixTypes settings diagnostics) recorder world = (.ok (value, last), after) →
      (World.check settings after).1 = (World.check settings world).1 :=
    fun ended => World.fst_call_of_script (world_of_fixTypes ended)
  unfold Completes
  rw [goOn_typecheck_of_failing (Prod.ext failing rfl), parsed]
  simp only [goOn_bind (noteFound diagnostics output), goOn_noteFound]
  refine (fix_conclude_completes_iff keeps typeTool false "Verifying fixes..." "Fixed files: "
    settings diagnostics).trans ?_
  rw [fixTypes_completes_iff, rereads_iff, again, ToolResult.answer_returns_iff]

theorem typecheck_completes_iff (named : settings.checkerCommand ≠ []) :
    Completes (typecheck settings) recorder world ↔ ¬ TypecheckStops settings world := by
  rcases answered : (World.check settings world).1 with e | none | output
  · have ended := @goOn_typecheck_of_error settings recorder _ _ _ (Prod.ext answered rfl)
    refine iff_of_false (not_completes_of_error ended) fun goes => ?_
    obtain ⟨_, answered'⟩ := World.call_returns_iff.2 ⟨named,
      Bool.eq_false_iff.2 fun nul => goes (.nul nul), fun e garbled => goes (.firstRun garbled)⟩
    cases answered.symm.trans answered'
  · obtain ⟨_, noNul, decoded⟩ := World.call_returns_iff.1 ⟨_, answered⟩
    obtain ⟨last, _, ended⟩ := @goOn_typecheck_of_clean settings recorder _ _ (Prod.ext answered rfl)
    refine iff_of_true ⟨_, last, _, ended⟩ ?_
    rintro (nul | garbled | ⟨failing, _⟩ | ⟨failing, _⟩ | ⟨failing, _⟩ | ⟨failing, _⟩)
    · cases noNul.symm.trans nul
    · exact decoded _ garbled
    all_goals cases answered.symm.trans failing
  · obtain ⟨_, noNul, decoded⟩ := World.call_returns_iff.1 ⟨_, answered⟩
    cases parsed : Diagnostic.parse output with
    | error e =>
        have ended := @goOn_typecheck_of_failing settings recorder _ _ _ (Prod.ext answered rfl)
        rw [parsed] at ended
        exact iff_of_false (not_completes_of_error ended) fun goes =>
          goes (.firstOutput answered (Diagnostic.overlong_of_error parsed))
    | ok diagnostics =>
        rw [typecheck_completes_of_failing answered parsed]
        constructor
        · rintro ⟨short, decoded', readable⟩ (nul | garbled | ⟨failing, long⟩ |
            ⟨failing, parsed', member, fixable, long⟩ | ⟨_, garbled⟩ | ⟨_, last, long⟩)
          · cases noNul.symm.trans nul
          · exact decoded _ garbled
          · cases answered.symm.trans failing
            exact Diagnostic.parse_returns_iff.1 ⟨diagnostics, parsed⟩ long
          · cases answered.symm.trans failing
            cases parsed.symm.trans parsed'
            exact short _ member fixable long
          · exact decoded' _ garbled
          · exact readable _ last long
        · intro goes
          exact ⟨fun d member fixable long => goes (.fileName answered parsed member fixable long),
            fun e garbled => goes (.lastRun answered garbled),
            fun again last long => goes (.lastOutput answered last long)⟩

theorem fixTests_ended {testFiles : List Path} {value : Unit}
    (ended : goOn (fixTests settings testFiles) recorder world = (.ok (value, last), after)) :
    after.script = world.script ∧ ∃ outcomes, last = recorder.keepAll outcomes := by
  rw [goOn_fixTests] at ended
  rcases aliasRun : Stage.aliases settings.root testFiles world.disk with ⟨e | aliases, aliased⟩
  · rw [aliasRun] at ended
    cases ended
  · simp only [aliasRun] at ended
    rcases importRun : Stage.testImports settings.root testFiles aliased with ⟨e | imports, mended⟩
    · rw [importRun] at ended
      cases ended
    · simp only [importRun] at ended
      rcases writeRun : Stage.generateTests settings.root settings.componentsDirectory mended with
        ⟨e | generated, written⟩
      · rw [writeRun] at ended
        cases ended
      · rw [writeRun] at ended
        cases ended
        exact ⟨rfl, _, rfl⟩

theorem fixTests_completes_iff {testFiles : List Path} (absolute : settings.root.isAbsolute = true)
    (usable : ∀ file ∈ testFiles, (settings.root ++ file).hasNul = false) :
    Completes (fixTests settings testFiles) recorder world ↔
      ¬ Component.SearchStops world.disk settings.componentsDirectory ∧
        ∀ name, Component.Lacks world.disk settings.componentsDirectory name →
          ¬ world.disk.TooLong
            (Component.testPathIn (settings.componentsDirectory.child name)) := by
  obtain ⟨aliases, aliased, aliasRun, same⟩ := Stage.harmless_aliases usable world.disk
  obtain ⟨imports, mended, importRun, same'⟩ := Stage.harmless_testImports usable aliased
  have changed := same.trans same'
  have writes : Stage.Returns (Stage.generateTests settings.root settings.componentsDirectory) mended ↔
      _ := Stage.generateTests_returns_iff absolute
  rw [Component.searchStops_iff_of_same changed] at writes
  simp only [Component.lacks_iff changed, changed.sameDirectories.tooLong_iff] at writes
  refine Iff.trans ?_ writes
  have ended := goOn_fixTests settings testFiles recorder world
  simp only [aliasRun, importRun] at ended
  rcases writeRun : Stage.generateTests settings.root settings.componentsDirectory mended with
    ⟨e | generated, written⟩
  all_goals rw [writeRun] at ended
  · refine iff_of_false (not_completes_of_error ended) ?_
    rintro ⟨_, _, ran⟩
    cases writeRun.symm.trans ran
  · exact iff_of_true ⟨_, _, _, ended⟩ ⟨_, _, writeRun⟩

theorem find_returns_iff : (∃ testFiles, TestFile.find world.disk settings.testDirectory
      settings.root = .ok testFiles) ↔ ¬ TestFile.SearchStops world.disk settings.testDirectory := by
  rw [← TestFile.below_returns_iff]
  unfold TestFile.find
  cases TestFile.below world.disk settings.testDirectory with
  | error e =>
      refine iff_of_false ?_ ?_ <;>
      · rintro ⟨_, ended⟩
        cases ended
  | ok found => exact iff_of_true ⟨_, rfl⟩ ⟨_, rfl⟩

theorem tests_completes_of_failing {testFiles : List Path} {output : Text}
    {diagnostics : List Diagnostic} (absolute : settings.root.isAbsolute = true)
    (searched : TestFile.find world.disk settings.testDirectory settings.root = .ok testFiles)
    (failing : (updateSnapshots settings world).1 = .ok (some output))
    (parsed : Diagnostic.parse output = .ok diagnostics) :
    Completes (tests settings) recorder world ↔
      (¬ Component.SearchStops (updateSnapshots settings world).2.disk
          settings.componentsDirectory ∧
        ∀ name, Component.Lacks (updateSnapshots settings world).2.disk
          settings.componentsDirectory name →
          ¬ (updateSnapshots settings world).2.disk.TooLong
            (Component.testPathIn (settings.componentsDirectory.child name))) ∧
      (∀ e, (world.run 1).result ≠ .undecodable e) ∧
      ∀ again, (World.test settings TestOptions.standard (updateSnapshots settings world).2).1 =
        .ok (some again) → ¬ Diagnostic.Overlong again := by
  obtain ⟨_, flagged, _⟩ := World.call_returns_iff.1 ⟨_, failing⟩
  have noNul := (hasNul_flagged settings true).symm.trans flagged
  have again : (World.test settings TestOptions.standard (updateSnapshots settings world).2).1 =
      (world.run 1).result.answer (settings.testCommand ++ TestOptions.standard.words) :=
    World.fst_call_call_of_none (World.error?_of_ok failing)
      ((error?_flagged_eq_none_iff settings false).2 noNul)
  have keeps : ∀ {recorder world value last after},
      goOn (fixTests settings testFiles) recorder world = (.ok (value, last), after) →
      (World.test settings TestOptions.standard after).1 =
        (World.test settings TestOptions.standard world).1 :=
    fun ended => World.fst_call_of_script (fixTests_ended ended).1
  have first : updateSnapshots settings world =
      (.ok (some output), (updateSnapshots settings world).2) := Prod.ext failing rfl
  unfold Completes
  rw [goOn_tests, searched, first]
  simp only [parsed]
  refine (fix_conclude_completes_iff keeps testTool true "Running final test verification..."
    "Fixed/created files: " settings diagnostics).trans ?_
  rw [fixTests_completes_iff absolute fun _ => TestFile.noNul_of_mem_find searched, rereads_iff,
    again, ToolResult.answer_returns_iff]

theorem tests_completes_iff (absolute : settings.root.isAbsolute = true) :
    Completes (tests settings) recorder world ↔ ¬ TestsStop settings world := by
  have ended := goOn_tests settings recorder world
  cases searched : TestFile.find world.disk settings.testDirectory settings.root with
  | error e =>
      rw [searched] at ended
      refine iff_of_false (not_completes_of_error ended) fun goes => ?_
      obtain ⟨testFiles, found⟩ := find_returns_iff.2 fun long => goes (.search long)
      cases searched.symm.trans found
  | ok testFiles =>
      have searches := find_returns_iff.1 ⟨testFiles, searched⟩
      rcases first : updateSnapshots settings world with ⟨e | none | output, after⟩
      all_goals
        have answered := congrArg Prod.fst first
        simp only [searched, first] at ended
      · refine iff_of_false (not_completes_of_error ended) fun goes => ?_
        have noNul := Bool.eq_false_iff.2 fun nul => goes (.nul nul)
        obtain ⟨_, answered'⟩ := World.call_returns_iff.2 ⟨flagged_ne_nil settings true,
          (hasNul_flagged settings true).trans noNul, fun e garbled => goes (.firstRun garbled)⟩
        cases answered.symm.trans answered'
      · obtain ⟨_, noNul, decoded⟩ := World.call_returns_iff.1 ⟨_, answered⟩
        refine iff_of_true ⟨_, _, _, ended⟩ ?_
        rintro (stops | nul | garbled | ⟨failing, _⟩ | ⟨failing, _⟩ | ⟨failing, _⟩ | ⟨failing, _⟩ |
          ⟨failing, _⟩)
        · exact searches stops
        · cases (noNul.symm.trans (hasNul_flagged settings true)).trans nul
        · exact decoded _ garbled
        all_goals cases answered.symm.trans failing
      · obtain ⟨_, noNul, decoded⟩ := World.call_returns_iff.1 ⟨_, answered⟩
        cases parsed : Diagnostic.parse output with
        | error e =>
            rw [parsed] at ended
            exact iff_of_false (not_completes_of_error ended) fun goes =>
              goes (.firstOutput answered (Diagnostic.overlong_of_error parsed))
        | ok diagnostics =>
            rw [tests_completes_of_failing absolute searched answered parsed]
            constructor
            · rintro ⟨⟨listed, short⟩, decoded', readable⟩ (stops | nul | garbled |
                ⟨failing, long⟩ | ⟨_, stops⟩ | ⟨_, lacks, long⟩ | ⟨_, garbled⟩ | ⟨_, last, long⟩)
              · exact searches stops
              · cases (noNul.symm.trans (hasNul_flagged settings true)).trans nul
              · exact decoded _ garbled
              · cases answered.symm.trans failing
                exact Diagnostic.parse_returns_iff.1 ⟨diagnostics, parsed⟩ long
              · exact listed stops
              · exact short _ lacks long
              · exact decoded' _ garbled
              · exact readable _ last long
            · intro goes
              exact ⟨⟨fun stops => goes (.components answered stops),
                fun name lacks long => goes (.testName answered lacks long)⟩,
                fun e garbled => goes (.lastRun answered garbled),
                fun again last long => goes (.lastOutput answered last long)⟩

structure Logged (recorder last : Recorder) (report : Report) : Prop where
  journal : report.journal = last.journal
  recorded : ∃ outcomes, last = recorder.keepAll outcomes

def closingNotes (tool : Text) (inFull : Bool) (announcement tally : Text) (output : Option Text)
    (remaining : List Diagnostic) (recorder : Recorder) : List Outcome :=
  let checked := logged .info announcement :: recheckNotes tool inFull output remaining
  checked ++ [logged .info (tally ++ count (recorder.keepAll checked).journal.touched)]

theorem concluded_eq_keepAll (tool : Text) (inFull : Bool) (announcement tally : Text)
    (output : Option Text) (remaining : List Diagnostic) (recorder : Recorder) :
    concluded tool inFull announcement tally output remaining recorder = recorder.keepAll
      (closingNotes tool inFull announcement tally output remaining recorder) := by
  rw [closingNotes, Recorder.keepAll_append]
  rfl

theorem logged_of_conclude {tool announcement tally : Text} {inFull : Bool}
    {rerun : World → Except CallError (Option Text) × World} {diagnostics : List Diagnostic}
    (ended : goOn (conclude tool inFull announcement tally settings rerun diagnostics) recorder world =
      (.ok (report, last), after)) : Logged recorder last report := by
  rw [goOn_conclude] at ended
  rcases reran : rerun world with ⟨e | output, finish⟩
  · rw [reran] at ended
    cases ended
  · rw [reran] at ended
    simp only at ended
    cases left : remainingOf output with
    | error e =>
        rw [left] at ended
        cases ended
    | ok remaining =>
        rw [left] at ended
        cases ended
        exact ⟨rfl, _, concluded_eq_keepAll ..⟩

theorem Logged.of_later {outcomes : List Outcome}
    (h : Logged (recorder.keepAll outcomes) last report) : Logged recorder last report := by
  obtain ⟨later, recorded⟩ := h.recorded
  exact ⟨h.journal, outcomes ++ later, by rw [recorded, Recorder.keepAll_append]⟩

theorem logged_of_typecheck
    (ended : goOn (typecheck settings) recorder world = (.ok (report, last), after)) :
    Logged recorder last report := by
  rcases first : World.check settings world with ⟨e | none | output, middle⟩
  · cases (goOn_typecheck_of_error first).symm.trans ended
  · obtain ⟨log, recorded, clean⟩ := @goOn_typecheck_of_clean settings recorder _ _ first
    rw [clean] at ended
    cases ended
    exact ⟨rfl, _, recorded⟩
  · obtain ⟨repair⟩ := typeRepair_of_goOn (congrArg Prod.fst first) ended
    have recorded := repair.recorded
    rw [concluded_eq_keepAll] at recorded
    exact Logged.of_later ⟨congrArg Report.journal repair.reported, _, recorded⟩

theorem logged_of_tests
    (ended : goOn (tests settings) recorder world = (.ok (report, last), after)) :
    Logged recorder last report := by
  rw [goOn_tests] at ended
  cases searched : TestFile.find world.disk settings.testDirectory settings.root with
  | error e =>
      rw [searched] at ended
      cases ended
  | ok testFiles =>
      rw [searched] at ended
      rcases first : updateSnapshots settings world with ⟨e | none | output, middle⟩
      · rw [first] at ended
        cases ended
      · rw [first] at ended
        cases ended
        exact ⟨rfl, _, rfl⟩
      · rw [first] at ended
        simp only at ended
        cases parsed : Diagnostic.parse output with
        | error e =>
            rw [parsed] at ended
            cases ended
        | ok diagnostics =>
            rw [parsed] at ended
            simp only [goOn_bind] at ended
            rcases fixed : goOn (fixTests settings testFiles) (recorder.keepAll
              (testNotes testFiles ++ [logged .error "Failed to update snapshots"])) middle with
              ⟨fault | ⟨value, mended⟩, written⟩
            · rw [fixed] at ended
              cases ended
            · rw [fixed] at ended
              obtain ⟨_, outcomes, recorded⟩ := fixTests_ended fixed
              rw [recorded] at ended
              exact (logged_of_conclude ended).of_later.of_later

end Pass

end DiagnosticRepair
