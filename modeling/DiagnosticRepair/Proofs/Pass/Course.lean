import DiagnosticRepair.Proofs.Log.Merging
import DiagnosticRepair.Proofs.Pass.Execution
import DiagnosticRepair.Console.Command

namespace DiagnosticRepair

/-- A pass taken apart. What it does in between sees the log but cannot change it. -/
inductive Course (α : Type) : Type 1 where
  | done (value : α)
  | keep (outcome : Outcome) (next : Course α)
  | act {β : Type} (work : Journal → World → Except Fault β × World) (next : β → Course α)

namespace Course

variable {α β : Type}

def goOn : Course α → Recorder → World → Except Fault (α × Recorder) × World
  | done value, recorder, world => (.ok (value, recorder), world)
  | keep outcome next, recorder, world => next.goOn (recorder.keep outcome) world
  | act work next, recorder, world =>
      match work recorder.journal world with
      | (.ok value, world) => (next value).goOn recorder world
      | (.error fault, world) => (.error fault, world)

def keepAll (outcomes : List Outcome) (next : Course α) : Course α :=
  outcomes.foldr keep next

def journal (next : Journal → Course α) : Course α :=
  act (fun journal world => (.ok journal, world)) next

def ask (answer : World → Except CallError (Option Text) × World) (next : Option Text → Course α) :
    Course α :=
  act (fun _ world => ((answer world).1.mapError .call, (answer world).2)) next

def onDisk (action : DiskAction β) (next : β → Course α) : Course α :=
  act (fun _ world =>
    let (result, disk) := action world.disk
    (result.mapError .access, { world with disk })) next

def read (parsed : Except TooManyDigits β) (next : β → Course α) : Course α :=
  act (fun _ world => (parsed.mapError .digits, world)) next

section

open Pass

def cleanReport (tool : Text) (settings : Settings) : Course Report :=
  journal fun log => done ⟨tool, true, log, [], [], none, settings.reportLimit⟩

def conclude (tool : Text) (inFull : Bool) (announcement tally : Text) (settings : Settings)
    (rerun : World → Except CallError (Option Text) × World) (diagnostics : List Diagnostic) :
    Course Report :=
  keep (logged .info announcement) <|
  ask rerun fun output =>
  read (remainingOf output) fun remaining =>
  keepAll (recheckNotes tool inFull output remaining) <|
  journal fun log =>
  keep (logged .info (tally ++ count log.touched)) <|
  journal fun log =>
  done ⟨tool, false, log, diagnostics, remaining, output, settings.reportLimit⟩

def fixTypes (settings : Settings) (diagnostics : List Diagnostic) (next : Course α) : Course α :=
  keep (logged .info "Fixing unused variables...") <|
  onDisk (Stage.unusedNames settings.root (Plan.unusedNames diagnostics)) fun renames =>
  keep renames <|
  keep (logged .info "Fixing missing imports...") <|
  onDisk (Stage.imports settings.root (Plan.imports diagnostics)) fun inserts =>
  keep inserts <|
  keep (logged .info "Checking remaining diagnostics...") <|
  keep (Plan.review diagnostics) next

def typecheck (settings : Settings) : Course Report :=
  keep (logged .info "Running TypeScript auto-fixer...") <|
  ask (World.check settings) fun
  | none => keep (logged .success "No TypeScript errors found!") (cleanReport typeTool settings)
  | some output =>
      read (Diagnostic.parse output) fun diagnostics =>
      keepAll (foundNotes diagnostics output) <|
      fixTypes settings diagnostics <|
      conclude typeTool false "Verifying fixes..." "Fixed files: " settings (World.check settings)
        diagnostics

def fixTests (settings : Settings) (testFiles : List Path) (next : Course α) : Course α :=
  keep (logged .info "Fixing import paths...") <|
  onDisk (Stage.aliases settings.root testFiles) fun aliases =>
  keep aliases <|
  keep (logged .info "Fixing common test patterns...") <|
  onDisk (Stage.testImports settings.root testFiles) fun imports =>
  keep imports <|
  keep (logged .info "Generating missing tests...") <|
  onDisk (Stage.generateTests settings.root settings.componentsDirectory) fun generated =>
  keep generated next

def tests (settings : Settings) : Course Report :=
  keep (logged .info "Running test auto-fixer...") <|
  onDisk (fun disk => (TestFile.find disk settings.testDirectory settings.root, disk))
    fun testFiles =>
  keep (logged .info ("Found " ++ count testFiles ++ " test files")) <|
  keep (logged .snapshot "Updating Jest snapshots...") <|
  ask (updateSnapshots settings) fun
  | none => keep (logged .success "All tests are passing!") (cleanReport testTool settings)
  | some output =>
      keep (logged .error "Failed to update snapshots") <|
      read (Diagnostic.parse output) fun diagnostics =>
      fixTests settings testFiles <|
      conclude testTool true "Running final test verification..." "Fixed/created files: " settings
        (World.test settings TestOptions.standard) diagnostics

end

variable {recorder : Recorder} {world : World}

theorem goOn_keepAll (outcomes : List Outcome) (next : Course α) (recorder : Recorder)
    (world : World) :
    (keepAll outcomes next).goOn recorder world = next.goOn (recorder.keepAll outcomes) world := by
  induction outcomes generalizing recorder with
  | nil => rfl
  | cons outcome rest ih => exact ih (recorder.keep outcome)

theorem goOn_ask (answer : World → Except CallError (Option Text) × World)
    (next : Option Text → Course α) :
    (ask answer next).goOn recorder world =
      match answer world with
      | (.ok output, after) => (next output).goOn recorder after
      | (.error e, after) => (.error (.call e), after) := by
  simp only [ask, goOn]
  rcases answer world with ⟨e | output, after⟩ <;> rfl

theorem goOn_onDisk (action : DiskAction β) (next : β → Course α) :
    (onDisk action next).goOn recorder world =
      match action world.disk with
      | (.ok value, disk) => (next value).goOn recorder { world with disk }
      | (.error e, disk) => (.error (.access e), { world with disk }) := by
  simp only [onDisk, goOn]
  rcases action world.disk with ⟨e | value, disk⟩ <;> rfl

theorem goOn_read (parsed : Except TooManyDigits β) (next : β → Course α) :
    (read parsed next).goOn recorder world =
      match parsed with
      | .ok value => (next value).goOn recorder world
      | .error e => (.error (.digits e), world) := by
  cases parsed <;> rfl

def IsOf (course : Course α) (pass : Pass α) : Prop :=
  ∀ recorder world, course.goOn recorder world = Pass.goOn pass recorder world

theorem conclude_isOf (tool : Text) (inFull : Bool) (announcement tally : Text)
    (settings : Settings) (rerun : World → Except CallError (Option Text) × World)
    (diagnostics : List Diagnostic) :
    (conclude tool inFull announcement tally settings rerun diagnostics).IsOf
      (Pass.conclude tool inFull announcement tally settings rerun diagnostics) := by
  intro recorder world
  rw [Pass.goOn_conclude]
  simp only [conclude, goOn, goOn_ask, goOn_read]
  rcases rerun world with ⟨e | output, after⟩
  · rfl
  · simp only
    cases Pass.remainingOf output with
    | error e => rfl
    | ok remaining =>
        simp only [goOn_keepAll]
        rfl

theorem IsOf.fixTypes {next : Course α} {pass : Pass α} (h : next.IsOf pass) (settings : Settings)
    (diagnostics : List Diagnostic) :
    (fixTypes settings diagnostics next).IsOf (do Pass.fixTypes settings diagnostics; pass) := by
  intro recorder world
  rw [Pass.goOn_bind, Pass.goOn_fixTypes]
  simp only [Course.fixTypes, goOn, goOn_onDisk]
  rcases Stage.unusedNames settings.root (Plan.unusedNames diagnostics) world.disk with
    ⟨e | renames, disk⟩
  · rfl
  · simp only
    rcases Stage.imports settings.root (Plan.imports diagnostics) disk with ⟨e | inserts, disk'⟩
    · rfl
    · exact h _ _

theorem IsOf.fixTests {next : Course α} {pass : Pass α} (h : next.IsOf pass) (settings : Settings)
    (testFiles : List Path) :
    (fixTests settings testFiles next).IsOf (do Pass.fixTests settings testFiles; pass) := by
  intro recorder world
  rw [Pass.goOn_bind, Pass.goOn_fixTests]
  simp only [Course.fixTests, goOn, goOn_onDisk]
  rcases Stage.aliases settings.root testFiles world.disk with ⟨e | aliases, disk⟩
  · rfl
  · simp only
    rcases Stage.testImports settings.root testFiles disk with ⟨e | imports, disk'⟩
    · rfl
    · simp only
      rcases Stage.generateTests settings.root settings.componentsDirectory disk' with
        ⟨e | generated, disk''⟩
      · rfl
      · exact h _ _

theorem typecheck_isOf (settings : Settings) :
    (typecheck settings).IsOf (Pass.typecheck settings) := by
  intro recorder world
  rcases ran : World.check settings world with ⟨e | none | output, after⟩
  · rw [Pass.goOn_typecheck_of_error ran]
    simp only [typecheck, goOn, goOn_ask, ran]
  · obtain ⟨last, rfl, clean⟩ := Pass.goOn_typecheck_of_clean ran
    rw [clean]
    simp only [typecheck, goOn, goOn_ask, ran]
    rfl
  · rw [Pass.goOn_typecheck_of_failing ran]
    simp only [typecheck, goOn, goOn_ask, ran, goOn_read]
    cases Diagnostic.parse output with
    | error e => rfl
    | ok diagnostics =>
        simp only [goOn_keepAll]
        rw [Pass.goOn_bind, Pass.goOn_noteFound]
        exact IsOf.fixTypes (conclude_isOf _ _ _ _ _ _ _) settings diagnostics _ _

theorem tests_isOf (settings : Settings) : (tests settings).IsOf (Pass.tests settings) := by
  intro recorder world
  rw [Pass.goOn_tests]
  simp only [tests, goOn, goOn_onDisk]
  cases TestFile.find world.disk settings.testDirectory settings.root with
  | error e => rfl
  | ok testFiles =>
      simp only [goOn_ask]
      rcases Pass.updateSnapshots settings world with ⟨e | none | output, after⟩
      · rfl
      · rfl
      · simp only [goOn, goOn_read]
        cases Diagnostic.parse output with
        | error e => rfl
        | ok diagnostics =>
            exact IsOf.fixTests (conclude_isOf _ _ _ _ _ _ _) settings testFiles _ _

structure Moment where
  recorded : List Outcome
  recorder : Recorder

namespace Moment

def start (listening : Bool) : Moment :=
  ⟨[], .start listening⟩

def keep (moment : Moment) (outcome : Outcome) : Moment :=
  ⟨moment.recorded ++ [outcome], moment.recorder.keep outcome⟩

structure InStep (moment : Moment) : Prop where
  listening : moment.recorder.listening = true
  entries : moment.recorder.journal.entries = moment.recorded.flatMap (·.entries)
  heard : moment.recorder.emitted = moment.recorder.journal.entries
  warnings : moment.recorder.journal.warnings =
    (moment.recorder.journal.entries.filter (·.category.isWarning)).map (·.message)
  touched : ∀ path, path ∈ moment.recorder.journal.touched ↔
    ∃ outcome ∈ moment.recorded, path ∈ outcome.touched

theorem inStep_start : (start true).InStep :=
  ⟨rfl, rfl, rfl, rfl, fun _ => by simp [start, Recorder.start, Journal.empty]⟩

theorem InStep.keep {moment : Moment} (h : moment.InStep) (outcome : Outcome) :
    (moment.keep outcome).InStep := by
  refine ⟨h.listening, ?_, ?_, ?_, fun path => ?_⟩
  · simp [Moment.keep, Recorder.keep, Journal.extend, h.entries]
  · simp [Moment.keep, Recorder.keep, Journal.extend, h.listening, h.heard]
  · simp [Moment.keep, Recorder.keep, Journal.extend, h.warnings, Outcome.warnings]
  · have union : path ∈ (moment.keep outcome).recorder.journal.touched ↔
        path ∈ moment.recorder.journal.touched ∨ path ∈ outcome.touched :=
      Journal.mem_touched_extend ..
    rw [union, h.touched, Moment.keep]
    simp [or_and_right, exists_or]

end Moment

def moments : Course α → Moment → World → List Moment
  | done _, _, _ => []
  | keep outcome next, moment, world =>
      moment.keep outcome :: next.moments (moment.keep outcome) world
  | act work next, moment, world =>
      match work moment.recorder.journal world with
      | (.ok value, world) => (next value).moments moment world
      | (.error _, _) => []

theorem inStep_of_mem_moments (course : Course α) {moment now : Moment} (h : moment.InStep)
    (member : now ∈ course.moments moment world) : now.InStep := by
  induction course generalizing moment world with
  | done value => cases member
  | keep outcome next ih =>
      rcases List.mem_cons.1 member with rfl | later
      · exact h.keep outcome
      · exact ih (h.keep outcome) later
  | act work next ih =>
      -- nothing is recorded here: what follows starts from the same moment
      rw [moments] at member
      rcases ran : work moment.recorder.journal world with ⟨fault | value, after⟩
      · rw [ran] at member
        cases member
      · rw [ran] at member
        exact ih value h member

theorem recorder_getLast_moments (course : Course α) {moment : Moment} {value : α} {last : Recorder}
    {after : World} (ended : course.goOn moment.recorder world = (.ok (value, last), after)) :
    ((course.moments moment world).getLastD moment).recorder = last := by
  induction course generalizing moment world with
  | done value =>
      cases ended
      rfl
  | keep outcome next ih =>
      rw [moments, List.getLastD_cons]
      exact ih ended
  | act work next ih =>
      rw [goOn] at ended
      rw [moments]
      rcases ran : work moment.recorder.journal world with ⟨fault | value, between⟩
      · rw [ran] at ended
        cases ended
      · rw [ran] at ended
        exact ih value ended

end Course

namespace Command

def course : Command → Settings → Course Report
  | typecheck => Course.typecheck
  | tests => Course.tests

theorem course_isOf (command : Command) (settings : Settings) :
    (command.course settings).IsOf (command.pass settings) := by
  cases command with
  | typecheck => exact Course.typecheck_isOf settings
  | tests => exact Course.tests_isOf settings

theorem log_stays_in_step (command : Command) (settings : Settings) (world : World) :
    (command.course settings).goOn (.start true) world =
      (command.pass settings).perform true world ∧
    (∀ report last after,
      (command.pass settings).perform true world = (.ok (report, last), after) →
      (((command.course settings).moments (.start true) world).getLastD (.start true)).recorder =
        last) ∧
    (∀ moment ∈ (command.course settings).moments (.start true) world, moment.InStep) ∧
    ∀ (journal : Journal) (outcomes : List Outcome),
      outcomes.foldl Journal.extend journal = journal.extend (.sum outcomes) := by
  have same := course_isOf command settings (.start true) world
  refine ⟨same, fun report last after ended => ?_, fun moment member => ?_, ?_⟩
  · exact Course.recorder_getLast_moments _ (same.trans ended)
  · exact Course.inStep_of_mem_moments _ Course.Moment.inStep_start member
  · exact fun journal outcomes => (journal.extend_sum outcomes).symm

def page : FileName := ⟨"page.ts", by decide⟩

def interruptedWorld : World where
  disk := (Disk.empty []).put [] page (.file (Utf8.encode "const x = 1;\n".toList))
  script := [⟨.exited 2 ("page.ts(1,7): error TS6133: 'x' is declared but never used\n".toList ++
    List.replicate 260 'x' ++ "(1,1): error TS2304: Cannot find name 'cn'".toList) [], id⟩]
  calls := []

theorem log_stays_in_step_interrupted :
    ((typecheck.pass (.ofRoot ⟨.root, []⟩)).perform true interruptedWorld).1.toOption.isNone ∧
    ∃ moment ∈ (Command.typecheck.course (.ofRoot ⟨.root, []⟩)).moments (.start true)
      interruptedWorld, moment.InStep ∧ moment.recorded.length = 5 ∧
        moment.recorder.journal.touched = [Path.ofText "page.ts"] := by
  have reached : ((Command.typecheck.course (.ofRoot ⟨.root, []⟩)).moments (.start true)
      interruptedWorld).any (fun moment => moment.recorded.length = 5 &&
        moment.recorder.journal.touched = [Path.ofText "page.ts"]) = true := by
    decide +kernel
  obtain ⟨moment, member, holds⟩ := List.any_eq_true.1 reached
  rw [Bool.and_eq_true, decide_eq_true_eq, decide_eq_true_eq] at holds
  obtain ⟨_, _, inStep, _⟩ := log_stays_in_step .typecheck (.ofRoot ⟨.root, []⟩) interruptedWorld
  exact ⟨by decide +kernel, moment, member, inStep moment member, holds⟩

end Command

end DiagnosticRepair
