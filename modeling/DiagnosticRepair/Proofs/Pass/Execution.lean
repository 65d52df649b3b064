import DiagnosticRepair.Pass.Repair
import DiagnosticRepair.Proofs.Diagnostic.Digits
import DiagnosticRepair.Proofs.Tool.Calls

namespace DiagnosticRepair

namespace Recorder

def keepAll (recorder : Recorder) (outcomes : List Outcome) : Recorder :=
  outcomes.foldl keep recorder

theorem keepAll_append (recorder : Recorder) (first second : List Outcome) :
    recorder.keepAll (first ++ second) = (recorder.keepAll first).keepAll second :=
  List.foldl_append

theorem entries_keepAll (outcomes : List Outcome) : ∀ recorder : Recorder,
    (recorder.keepAll outcomes).journal.entries =
      recorder.journal.entries ++ outcomes.flatMap (·.entries) := by
  induction outcomes with
  | nil => simp [keepAll]
  | cons outcome rest ih =>
      intro recorder
      rw [keepAll, List.foldl_cons, ← keepAll, ih]
      simp [keep, Journal.extend]

theorem mem_touched_keepAll {path : Path} (outcomes : List Outcome) : ∀ recorder : Recorder,
    path ∈ (recorder.keepAll outcomes).journal.touched ↔
      path ∈ recorder.journal.touched ∨ path ∈ outcomes.flatMap (·.touched) := by
  induction outcomes with
  | nil => simp [keepAll]
  | cons outcome rest ih =>
      intro recorder
      have kept : path ∈ (recorder.keep outcome).journal.touched ↔
          path ∈ recorder.journal.touched ∨ path ∈ outcome.touched :=
        Journal.mem_touched_extend ..
      rw [keepAll, List.foldl_cons, ← keepAll, ih, kept, List.flatMap_cons, List.mem_append, or_assoc]

end Recorder

namespace Pass

variable {α β : Type} {recorder last : Recorder} {world after : World}

def goOn (pass : Pass α) (recorder : Recorder) (world : World) :
    Except Fault (α × Recorder) × World :=
  pass recorder world

theorem goOn_bind (pass : Pass α) (next : α → Pass β) (recorder : Recorder) (world : World) :
    goOn (pass >>= next) recorder world =
      match goOn pass recorder world with
      | (.ok (value, recorder), world) => goOn (next value) recorder world
      | (.error fault, world) => (.error fault, world) := by
  unfold goOn
  simp only [bind, StateT.bind, ExceptT.bind, ExceptT.mk]
  cases pass recorder world with
  | mk outcome between => cases outcome <;> rfl

theorem exists_of_goOn_bind {pass : Pass α} {next : α → Pass β} {value : β}
    (ended : goOn (pass >>= next) recorder world = (.ok (value, last), after)) :
    ∃ first middle between, goOn pass recorder world = (.ok (first, middle), between) ∧
      goOn (next first) middle between = (.ok (value, last), after) := by
  rw [goOn_bind] at ended
  rcases ran : goOn pass recorder world with ⟨fault | ⟨first, middle⟩, between⟩
  · rw [ran] at ended
    cases ended
  · rw [ran] at ended
    exact ⟨first, middle, between, rfl, ended⟩

theorem goOn_keep (outcome : Outcome) (recorder : Recorder) (world : World) :
    goOn (keep outcome) recorder world = (.ok ((), recorder.keep outcome), world) := rfl

theorem goOn_note (category : Category) (message : Text) (recorder : Recorder) (world : World) :
    goOn (note category message) recorder world =
      (.ok ((), recorder.keep (.ofEntry ⟨category, message⟩)), world) := rfl

theorem goOn_ask (answer : World → Except CallError (Option Text) × World) (recorder : Recorder)
    (world : World) :
    goOn (ask answer) recorder world =
      match answer world with
      | (.ok output, after) => (.ok (output, recorder), after)
      | (.error e, after) => (.error (.call e), after) := by
  have start : goOn (getThe World : Pass World) recorder world = (.ok (world, recorder), world) := rfl
  have stored (other : World) : goOn (set other : Pass PUnit) recorder world =
      (.ok ((), recorder), other) := rfl
  rw [ask, goOn_bind, start]
  simp only
  rcases answer world with ⟨e | output, after⟩ <;> simp only [goOn_bind, stored] <;> rfl

theorem goOn_parse (output : Text) (recorder : Recorder) (world : World) :
    goOn (parse output) recorder world =
      match Diagnostic.parse output with
      | .ok diagnostics => (.ok (diagnostics, recorder), world)
      | .error e => (.error (.digits e), world) := by
  unfold goOn parse
  cases Diagnostic.parse output <;> rfl

theorem goOn_onDisk (action : DiskAction α) (recorder : Recorder) (world : World) :
    goOn (onDisk action) recorder world =
      match action world.disk with
      | (.ok value, disk) => (.ok (value, recorder), { world with disk })
      | (.error e, disk) => (.error (.access e), { world with disk }) := by
  have start : goOn (getThe World : Pass World) recorder world = (.ok (world, recorder), world) := rfl
  have stored (other : World) : goOn (set other : Pass PUnit) recorder world =
      (.ok ((), recorder), other) := rfl
  rw [onDisk, goOn_bind, start]
  simp only
  cases ran : action world.disk with
  | mk result disk =>
      simp only [goOn_bind, stored]
      cases result <;> rfl

theorem exists_of_perform {pass : Pass α} {listening : Bool}
    (h : (pass.perform listening world).1.toOption.isSome = true) :
    ∃ value last after, pass.perform listening world = (.ok (value, last), after) := by
  rcases ended : pass.perform listening world with ⟨fault | ⟨value, last⟩, after⟩
  · rw [ended] at h
    cases h
  · exact ⟨value, last, after, rfl⟩

theorem exists_of_perform_holds {pass : Pass α} {listening : Bool} (holds : α → World → Bool)
    (h : (match pass.perform listening world with
      | (.ok (value, _), after) => holds value after
      | (.error _, _) => false) = true) :
    ∃ value last after, pass.perform listening world = (.ok (value, last), after) ∧
      holds value after = true := by
  rcases ended : pass.perform listening world with ⟨fault | ⟨value, last⟩, after⟩
  · rw [ended] at h
    cases h
  · rw [ended] at h
    exact ⟨value, last, after, rfl, h⟩

def logged (category : Category) (message : Text) : Outcome :=
  .ofEntry ⟨category, message⟩

def foundNotes (diagnostics : List Diagnostic) (output : Text) : List Outcome :=
  logged .info ("Found " ++ count diagnostics ++ " TypeScript errors") ::
    if diagnostics.isEmpty then
      [logged .info ("Unparsed TypeScript" ++ " output:\n" ++ Text.trimEnd output)]
    else []

def recheckNotes (tool : Text) (inFull : Bool) (output : Option Text)
    (remaining : List Diagnostic) : List Outcome :=
  match output with
  | none => [logged .success ("All " ++ tool ++ " issues fixed!")]
  | some output =>
      logged .warning (count remaining ++ " " ++ tool
        ++ " diagnostic(s) remain (may require manual review)") ::
      if inFull || remaining.isEmpty then
        [logged .info (tool ++ " output:\n" ++ Text.trimEnd output)]
      else []

def remainingOf : Option Text → Except TooManyDigits (List Diagnostic)
  | none => .ok []
  | some output => Diagnostic.parse output

theorem goOn_noteFound (diagnostics : List Diagnostic) (output : Text) (recorder : Recorder)
    (world : World) :
    goOn (noteFound diagnostics output) recorder world =
      (.ok ((), recorder.keepAll (foundNotes diagnostics output)), world) := by
  simp only [noteFound, goOn_bind, goOn_note, foundNotes]
  split <;> rfl

theorem goOn_recheck (tool : Text) (inFull : Bool) (output : Option Text) (recorder : Recorder)
    (world : World) :
    goOn (recheck tool inFull output) recorder world =
      match remainingOf output with
      | .ok remaining =>
          (.ok (remaining, recorder.keepAll (recheckNotes tool inFull output remaining)), world)
      | .error e => (.error (.digits e), world) := by
  cases output with
  | none => rfl
  | some output =>
      rw [recheck, goOn_bind, goOn_parse, remainingOf]
      cases Diagnostic.parse output with
      | error e => rfl
      | ok remaining =>
          simp only [goOn_bind, goOn_note, recheckNotes]
          split <;> rfl

def concluded (tool : Text) (inFull : Bool) (announcement tally : Text) (output : Option Text)
    (remaining : List Diagnostic) (recorder : Recorder) : Recorder :=
  let checked := recorder.keepAll
    (logged .info announcement :: recheckNotes tool inFull output remaining)
  checked.keep (logged .info (tally ++ count checked.journal.touched))

theorem entries_concluded (tool : Text) (inFull : Bool) (announcement tally : Text)
    (output : Option Text) (remaining : List Diagnostic) (recorder : Recorder) :
    ∃ total, (concluded tool inFull announcement tally output remaining recorder).journal.entries =
      recorder.journal.entries ++ (⟨.info, announcement⟩ ::
        (recheckNotes tool inFull output remaining).flatMap (·.entries)) ++ [⟨.info, total⟩] := by
  refine ⟨tally ++ count (recorder.keepAll (logged .info announcement ::
    recheckNotes tool inFull output remaining)).journal.touched, ?_⟩
  rw [concluded, Recorder.keep, Journal.extend]
  simp only [Recorder.entries_keepAll]
  rfl

theorem touched_foundNotes (diagnostics : List Diagnostic) (output : Text) :
    (foundNotes diagnostics output).flatMap (·.touched) = [] := by
  unfold foundNotes
  split <;> rfl

theorem touched_recheckNotes (tool : Text) (inFull : Bool) (output : Option Text)
    (remaining : List Diagnostic) :
    (recheckNotes tool inFull output remaining).flatMap (·.touched) = [] := by
  unfold recheckNotes
  split
  · rfl
  · split <;> rfl

theorem mem_touched_concluded {path : Path} (tool : Text) (inFull : Bool) (announcement tally : Text)
    (output : Option Text) (remaining : List Diagnostic) (recorder : Recorder) :
    path ∈ (concluded tool inFull announcement tally output remaining recorder).journal.touched ↔
      path ∈ recorder.journal.touched := by
  rw [concluded, Recorder.keep, Journal.mem_touched_extend, Recorder.mem_touched_keepAll,
    List.flatMap_cons, touched_recheckNotes]
  simp [logged, Outcome.ofEntry, Outcome.ofEntries]

theorem goOn_conclude (tool : Text) (inFull : Bool) (announcement tally : Text)
    (settings : Settings) (rerun : World → Except CallError (Option Text) × World)
    (diagnostics : List Diagnostic) (recorder : Recorder) (world : World) :
    goOn (conclude tool inFull announcement tally settings rerun diagnostics) recorder world =
      match rerun world with
      | (.error e, after) => (.error (.call e), after)
      | (.ok output, after) =>
          match remainingOf output with
          | .ok remaining =>
              let last := concluded tool inFull announcement tally output remaining recorder
              (.ok (⟨tool, false, last.journal, diagnostics, remaining, output,
                settings.reportLimit⟩, last), after)
          | .error e => (.error (.digits e), after) := by
  simp only [conclude, goOn_bind, goOn_note, goOn_ask]
  rcases rerun world with ⟨e | output, after⟩
  · rfl
  · simp only [goOn_recheck]
    cases remainingOf output <;> rfl

def fixNotes (diagnostics : List Diagnostic) (renames inserts : Outcome) : List Outcome :=
  [logged .info "Fixing unused variables...", renames, logged .info "Fixing missing imports...",
    inserts, logged .info "Checking remaining diagnostics...", Plan.review diagnostics]

theorem goOn_fixTypes (settings : Settings) (diagnostics : List Diagnostic) (recorder : Recorder)
    (world : World) :
    goOn (fixTypes settings diagnostics) recorder world =
      match Stage.unusedNames settings.root (Plan.unusedNames diagnostics) world.disk with
      | (.error e, disk) => (.error (.access e), { world with disk })
      | (.ok renames, disk) =>
          match Stage.imports settings.root (Plan.imports diagnostics) disk with
          | (.error e, disk) => (.error (.access e), { world with disk })
          | (.ok inserts, disk) =>
              (.ok ((), recorder.keepAll (fixNotes diagnostics renames inserts)),
                { world with disk }) := by
  simp only [fixTypes, goOn_bind, goOn_note, goOn_keep, goOn_onDisk]
  rcases Stage.unusedNames settings.root (Plan.unusedNames diagnostics) world.disk with
    ⟨e | renames, disk⟩
  · rfl
  · simp only
    rcases Stage.imports settings.root (Plan.imports diagnostics) disk with ⟨e | inserts, disk'⟩ <;>
      rfl

theorem goOn_typecheck_of_clean {settings : Settings} {recorder : Recorder} {world after : World}
    (ran : World.check settings world = (.ok none, after)) :
    ∃ last : Recorder, last = recorder.keepAll [logged .info "Running TypeScript auto-fixer...",
        logged .success "No TypeScript errors found!"] ∧
      goOn (typecheck settings) recorder world =
        (.ok (⟨typeTool, true, last.journal, [], [], none, settings.reportLimit⟩, last), after) := by
  refine ⟨_, rfl, ?_⟩
  simp only [typecheck, goOn_bind, goOn_note, goOn_ask, ran]
  rfl

theorem goOn_typecheck_of_error {settings : Settings} {recorder : Recorder} {world after : World}
    {e : CallError} (ran : World.check settings world = (.error e, after)) :
    goOn (typecheck settings) recorder world = (.error (.call e), after) := by
  simp only [typecheck, goOn_bind, goOn_note, goOn_ask, ran]

theorem goOn_typecheck_of_failing {settings : Settings} {recorder : Recorder} {world after : World}
    {output : Text} (ran : World.check settings world = (.ok (some output), after)) :
    goOn (typecheck settings) recorder world =
      match Diagnostic.parse output with
      | .error e => (.error (.digits e), after)
      | .ok diagnostics =>
          goOn (do
            noteFound diagnostics output
            fixTypes settings diagnostics
            conclude typeTool false "Verifying fixes..." "Fixed files: " settings
              (World.check settings) diagnostics)
            (recorder.keep (logged .info "Running TypeScript auto-fixer...")) after := by
  simp only [typecheck, goOn_bind, goOn_note, goOn_ask, ran, goOn_parse]
  cases Diagnostic.parse output <;> rfl

/-- How a pass over a failing checker goes where it comes to an end: both stages are done, the one
on the disk that the other leaves, before the checker is run again. -/
structure TypeRepair (settings : Settings) (recorder : Recorder) (world : World) (output : Text)
    (report : Report) (last : Recorder) (after : World) where
  diagnostics : List Diagnostic
  renames : Outcome
  inserts : Outcome
  renamed : Disk
  fixed : Disk
  remaining : List Diagnostic
  parsed : Diagnostic.parse output = .ok diagnostics
  renameRun : Stage.unusedNames settings.root (Plan.unusedNames diagnostics)
    (World.check settings world).2.disk = (.ok renames, renamed)
  insertRun : Stage.imports settings.root (Plan.imports diagnostics) renamed = (.ok inserts, fixed)
  rerun : World.check settings { (World.check settings world).2 with disk := fixed } =
    (.ok report.finalOutput, after)
  left : remainingOf report.finalOutput = .ok remaining
  recorded : last = concluded typeTool false "Verifying fixes..." "Fixed files: "
    report.finalOutput remaining
    (recorder.keepAll ([logged .info "Running TypeScript auto-fixer..."] ++
      foundNotes diagnostics output ++ fixNotes diagnostics renames inserts))
  reported : report = ⟨typeTool, false, last.journal, diagnostics, remaining, report.finalOutput,
    settings.reportLimit⟩

theorem typeRepair_of_goOn {settings : Settings} {recorder last : Recorder} {world after : World}
    {output : Text} {report : Report} (failing : (World.check settings world).1 = .ok (some output))
    (ended : goOn (typecheck settings) recorder world = (.ok (report, last), after)) :
    Nonempty (TypeRepair settings recorder world output report last after) := by
  rw [goOn_typecheck_of_failing (Prod.ext failing rfl)] at ended
  cases parsed : Diagnostic.parse output with
  | error e => simp [parsed] at ended
  | ok diagnostics =>
      simp only [parsed, goOn_bind, goOn_noteFound, goOn_fixTypes, goOn_conclude] at ended
      rcases renameRun : Stage.unusedNames settings.root (Plan.unusedNames diagnostics)
        (World.check settings world).2.disk with ⟨e | renames, renamed⟩
      · simp [renameRun] at ended
      · simp only [renameRun] at ended
        rcases insertRun : Stage.imports settings.root (Plan.imports diagnostics) renamed with
          ⟨e | inserts, fixed⟩
        · simp [insertRun] at ended
        · simp only [insertRun] at ended
          rcases rerun : World.check settings { (World.check settings world).2 with disk := fixed }
            with ⟨e | final, after'⟩
          · simp [rerun] at ended
          · simp only [rerun] at ended
            cases left : remainingOf final with
            | error e => simp [left] at ended
            | ok remaining =>
                simp only [left, Prod.mk.injEq, Except.ok.injEq] at ended
                obtain ⟨⟨rfl, rfl⟩, rfl⟩ := ended
                refine ⟨diagnostics, renames, inserts, renamed, fixed, remaining, parsed, renameRun,
                  insertRun, rerun, left, ?_, rfl⟩
                rw [Recorder.keepAll_append, Recorder.keepAll_append]
                rfl

theorem goOn_look (question : Disk → Except AccessError α) (recorder : Recorder) (world : World) :
    goOn (look question) recorder world =
      match question world.disk with
      | .ok value => (.ok (value, recorder), world)
      | .error e => (.error (.access e), world) := by
  rw [look, goOn_onDisk]
  cases question world.disk <;> rfl

def testFixNotes (aliases imports generated : Outcome) : List Outcome :=
  [logged .info "Fixing import paths...", aliases, logged .info "Fixing common test patterns...",
    imports, logged .info "Generating missing tests...", generated]

theorem goOn_fixTests (settings : Settings) (testFiles : List Path) (recorder : Recorder)
    (world : World) :
    goOn (fixTests settings testFiles) recorder world =
      match Stage.aliases settings.root testFiles world.disk with
      | (.error e, disk) => (.error (.access e), { world with disk })
      | (.ok aliases, disk) =>
          match Stage.testImports settings.root testFiles disk with
          | (.error e, disk) => (.error (.access e), { world with disk })
          | (.ok imports, disk) =>
              match Stage.generateTests settings.root settings.componentsDirectory disk with
              | (.error e, disk) => (.error (.access e), { world with disk })
              | (.ok generated, disk) =>
                  (.ok ((), recorder.keepAll (testFixNotes aliases imports generated)),
                    { world with disk }) := by
  simp only [fixTests, goOn_bind, goOn_note, goOn_keep, goOn_onDisk]
  rcases Stage.aliases settings.root testFiles world.disk with ⟨e | aliases, disk⟩
  · rfl
  · simp only
    rcases Stage.testImports settings.root testFiles disk with ⟨e | imports, disk'⟩
    · rfl
    · simp only
      rcases Stage.generateTests settings.root settings.componentsDirectory disk' with
        ⟨e | generated, disk''⟩ <;> rfl

def updateSnapshots (settings : Settings) : World → Except CallError (Option Text) × World :=
  World.test settings { TestOptions.standard with updateSnapshots := true }

def testNotes (testFiles : List Path) : List Outcome :=
  [logged .info "Running test auto-fixer...",
    logged .info ("Found " ++ count testFiles ++ " test files"),
    logged .snapshot "Updating Jest snapshots..."]

theorem goOn_tests (settings : Settings) (recorder : Recorder) (world : World) :
    goOn (tests settings) recorder world =
      match TestFile.find world.disk settings.testDirectory settings.root with
      | .error e => (.error (.access e), world)
      | .ok testFiles =>
          match updateSnapshots settings world with
          | (.error e, after) => (.error (.call e), after)
          | (.ok none, after) =>
              let last := recorder.keepAll
                (testNotes testFiles ++ [logged .success "All tests are passing!"])
              (.ok (⟨testTool, true, last.journal, [], [], none, settings.reportLimit⟩, last), after)
          | (.ok (some output), after) =>
              match Diagnostic.parse output with
              | .error e => (.error (.digits e), after)
              | .ok diagnostics =>
                  goOn (do
                    fixTests settings testFiles
                    conclude testTool true "Running final test verification..."
                      "Fixed/created files: " settings (World.test settings TestOptions.standard)
                      diagnostics)
                    (recorder.keepAll
                      (testNotes testFiles ++ [logged .error "Failed to update snapshots"])) after := by
  simp only [tests, goOn_bind, goOn_note, goOn_look]
  cases TestFile.find world.disk settings.testDirectory settings.root with
  | error e => rfl
  | ok testFiles =>
      simp only [goOn_ask]
      rw [show World.test settings { TestOptions.standard with updateSnapshots := true } world =
        updateSnapshots settings world from rfl]
      rcases updateSnapshots settings world with ⟨e | none | output, after⟩
      · rfl
      · rfl
      · simp only [goOn_bind, goOn_note, goOn_parse]
        cases Diagnostic.parse output <;> rfl

structure TestRepair (settings : Settings) (recorder : Recorder) (world : World) (output : Text)
    (report : Report) (last : Recorder) (after : World) where
  testFiles : List Path
  diagnostics : List Diagnostic
  aliases : Outcome
  imports : Outcome
  generated : Outcome
  resolved : Disk
  mended : Disk
  fixed : Disk
  remaining : List Diagnostic
  searched : TestFile.find world.disk settings.testDirectory settings.root = .ok testFiles
  aliasRun : Stage.aliases settings.root testFiles (updateSnapshots settings world).2.disk =
    (.ok aliases, resolved)
  importRun : Stage.testImports settings.root testFiles resolved = (.ok imports, mended)
  generateRun : Stage.generateTests settings.root settings.componentsDirectory mended =
    (.ok generated, fixed)
  rerun : World.test settings TestOptions.standard
    { (updateSnapshots settings world).2 with disk := fixed } = (.ok report.finalOutput, after)
  recorded : last = concluded testTool true "Running final test verification..."
    "Fixed/created files: " report.finalOutput remaining
    (recorder.keepAll (testNotes testFiles ++ [logged .error "Failed to update snapshots"] ++
      testFixNotes aliases imports generated))
  reported : report = ⟨testTool, false, last.journal, diagnostics, remaining, report.finalOutput,
    settings.reportLimit⟩

theorem testRepair_of_goOn {settings : Settings} {recorder last : Recorder} {world after : World}
    {output : Text} {report : Report} (failing : (updateSnapshots settings world).1 = .ok (some output))
    (ended : goOn (tests settings) recorder world = (.ok (report, last), after)) :
    Nonempty (TestRepair settings recorder world output report last after) := by
  rw [goOn_tests] at ended
  cases searched : TestFile.find world.disk settings.testDirectory settings.root with
  | error e => simp [searched] at ended
  | ok testFiles =>
      have first : updateSnapshots settings world =
          (.ok (some output), (updateSnapshots settings world).2) := Prod.ext failing rfl
      rw [searched, first] at ended
      cases parsed : Diagnostic.parse output with
      | error e => simp [parsed] at ended
      | ok diagnostics =>
          simp only [parsed, goOn_bind, goOn_fixTests, goOn_conclude] at ended
          rcases aliasRun : Stage.aliases settings.root testFiles
            (updateSnapshots settings world).2.disk with ⟨e | aliases, resolved⟩
          · simp [aliasRun] at ended
          · simp only [aliasRun] at ended
            rcases importRun : Stage.testImports settings.root testFiles resolved with
              ⟨e | imports, mended⟩
            · simp [importRun] at ended
            · simp only [importRun] at ended
              rcases generateRun : Stage.generateTests settings.root settings.componentsDirectory
                mended with ⟨e | generated, fixed⟩
              · simp [generateRun] at ended
              · simp only [generateRun] at ended
                rcases rerun : World.test settings TestOptions.standard
                  { (updateSnapshots settings world).2 with disk := fixed } with ⟨e | final, after'⟩
                · simp [rerun] at ended
                · simp only [rerun] at ended
                  cases left : remainingOf final with
                  | error e => simp [left] at ended
                  | ok remaining =>
                      simp only [left, Prod.mk.injEq, Except.ok.injEq] at ended
                      obtain ⟨⟨rfl, rfl⟩, rfl⟩ := ended
                      refine ⟨testFiles, diagnostics, aliases, imports, generated, resolved, mended,
                        fixed, remaining, searched, aliasRun, importRun, generateRun, rerun, ?_, rfl⟩
                      rw [Recorder.keepAll_append _ (_ ++ _)]

end Pass

end DiagnosticRepair
