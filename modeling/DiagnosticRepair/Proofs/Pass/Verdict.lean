import DiagnosticRepair.Proofs.Diagnostic.Rendering
import DiagnosticRepair.Proofs.Pass.Execution
import DiagnosticRepair.Console.Command

namespace DiagnosticRepair

namespace ToolResult

variable {result : ToolResult} {words : List Text} {output : Text}

def Succeeded (result : ToolResult) : Prop :=
  ∃ stdout stderr, result = .exited 0 stdout stderr

theorem answer_eq_clean_iff : result.answer words = .ok none ↔ result.Succeeded := by
  cases result with
  | notStarted refusal program => simp [answer, Succeeded]
  | undecodable e => simp [answer, Succeeded]
  | exited code stdout stderr =>
      by_cases zero : code = 0
      · subst zero
        exact iff_of_true rfl ⟨stdout, stderr, rfl⟩
      · refine iff_of_false ?_ ?_
        · simp only [answer, if_neg zero]
          split <;> simp
        · rintro ⟨_, _, same⟩
          cases same
          exact zero rfl

theorem allBlank_of_answer (h : result.answer words = .ok (some output)) :
    Text.allBlank output = false := by
  cases result with
  | notStarted refusal program =>
      cases h
      have colon : Text.isBlank ':' = false := by decide
      simp [Text.allBlank, colon]
  | undecodable e => cases h
  | exited code stdout stderr =>
      simp only [answer] at h
      split at h
      · cases h
      · split at h
        · cases h
          have letter : Text.isBlank 'e' = false := by decide
          simp [Text.allBlank, letter]
        · rename_i seen
          cases h
          simpa using seen

end ToolResult

namespace World

variable {world : World} {call : Call} {output : Option Text}

def make (call : Call) : World → Except CallError (Option Text) × World :=
  World.call call.words call.directory

theorem make_of_ok (answered : (make call world).1 = .ok output) :
    make call world = world.start call :=
  call_of_none (error?_of_ok answered)

theorem clean_iff_of_make (answered : (make call world).1 = .ok output) :
    output = none ↔ (world.run 0).result.Succeeded := by
  rw [make_of_ok answered] at answered
  have result : (world.run 0).result.answer call.words = .ok output := answered
  rw [← @ToolResult.answer_eq_clean_iff _ call.words, result, Except.ok.injEq]

end World

namespace Pass

variable {α β : Type} {pass : Pass α} {next : α → Pass β} {recorder last : Recorder}
  {world after : World}

def CallsNone (pass : Pass α) : Prop :=
  ∀ recorder world, (goOn pass recorder world).2.script = world.script ∧
    (goOn pass recorder world).2.calls = world.calls

theorem callsNone_keep (outcome : Outcome) : CallsNone (keep outcome) :=
  fun _ _ => ⟨rfl, rfl⟩

theorem callsNone_onDisk (action : DiskAction α) : CallsNone (onDisk action) := by
  intro recorder world
  rw [goOn_onDisk]
  rcases action world.disk with ⟨e | value, disk⟩ <;> exact ⟨rfl, rfl⟩

theorem CallsNone.bind (h : CallsNone pass) (h' : ∀ value, CallsNone (next value)) :
    CallsNone (pass >>= next) := by
  intro recorder world
  have first := h recorder world
  rw [goOn_bind]
  rcases ran : goOn pass recorder world with ⟨fault | ⟨value, middle⟩, between⟩
  · rw [ran] at first
    exact first
  · rw [ran] at first
    obtain ⟨script, calls⟩ := h' value middle between
    exact ⟨script.trans first.1, calls.trans first.2⟩

theorem callsNone_fixTypes (settings : Settings) (diagnostics : List Diagnostic) :
    CallsNone (fixTypes settings diagnostics) :=
  .bind (callsNone_keep _) fun _ => .bind (callsNone_onDisk _) fun _ =>
    .bind (callsNone_keep _) fun _ => .bind (callsNone_keep _) fun _ =>
    .bind (callsNone_onDisk _) fun _ => .bind (callsNone_keep _) fun _ =>
    .bind (callsNone_keep _) fun _ => callsNone_keep _

theorem callsNone_fixTests (settings : Settings) (testFiles : List Path) :
    CallsNone (fixTests settings testFiles) :=
  .bind (callsNone_keep _) fun _ => .bind (callsNone_onDisk _) fun _ =>
    .bind (callsNone_keep _) fun _ => .bind (callsNone_keep _) fun _ =>
    .bind (callsNone_onDisk _) fun _ => .bind (callsNone_keep _) fun _ =>
    .bind (callsNone_keep _) fun _ => .bind (callsNone_onDisk _) fun _ => callsNone_keep _

structure Rechecked (tool : Text) (settings : Settings)
    (rerun : World → Except CallError (Option Text) × World) (world : World) (report : Report)
    (after : World) : Prop where
  tool : report.tool = tool
  clean : report.clean = false
  limit : report.limit = settings.reportLimit
  ran : rerun world = (.ok report.finalOutput, after)
  left : remainingOf report.finalOutput = .ok report.remaining

theorem rechecked_of_conclude {tool announcement tally : Text} {inFull : Bool}
    {settings : Settings} {rerun : World → Except CallError (Option Text) × World}
    {diagnostics : List Diagnostic} {report : Report}
    (ended : goOn (conclude tool inFull announcement tally settings rerun diagnostics) recorder
      world = (.ok (report, last), after)) :
    Rechecked tool settings rerun world report after := by
  rw [goOn_conclude] at ended
  rcases ran : rerun world with ⟨e | output, between⟩
  · rw [ran] at ended
    cases ended
  · rw [ran] at ended
    simp only at ended
    cases left : remainingOf output with
    | error e =>
        rw [left] at ended
        cases ended
    | ok remaining =>
        rw [left] at ended
        cases ended
        exact ⟨rfl, rfl, rfl, ran, left⟩

end Pass

namespace Command

variable {command : Command} {settings : Settings} {world after : World} {listening : Bool}
  {report : Report} {last : Recorder} {output : Text}

def tool : Command → Text
  | typecheck => Pass.typeTool
  | tests => Pass.testTool

def firstCall : Command → Settings → Call
  | typecheck, settings => ⟨settings.checkerCommand, settings.root⟩
  | tests, settings =>
      ⟨settings.testCommand ++ { TestOptions.standard with updateSnapshots := true }.words,
        settings.root⟩

def lastCall : Command → Settings → Call
  | typecheck, settings => ⟨settings.checkerCommand, settings.root⟩
  | tests, settings => ⟨settings.testCommand ++ TestOptions.standard.words, settings.root⟩

theorem answered_of_perform
    (ended : (command.pass settings).perform listening world = (.ok (report, last), after)) :
    ∃ output, (World.make (command.firstCall settings) world).1 = .ok output := by
  rcases ran : World.make (command.firstCall settings) world with ⟨e | output, between⟩
  · cases command with
    | typecheck => cases (Pass.goOn_typecheck_of_error ran).symm.trans ended
    | tests =>
        have first : Pass.updateSnapshots settings world = (.error e, between) := ran
        have stopped : Pass.goOn (Pass.tests settings) (.start listening) world = _ := ended
        rw [Pass.goOn_tests, first] at stopped
        cases searched : TestFile.find world.disk settings.testDirectory settings.root <;>
        · rw [searched] at stopped
          cases stopped
  · exact ⟨output, rfl⟩

theorem report_of_success
    (succeeds : (World.make (command.firstCall settings) world).1 = .ok none)
    (ended : (command.pass settings).perform listening world = (.ok (report, last), after)) :
    report.clean = true ∧ after = (World.make (command.firstCall settings) world).2 := by
  cases command with
  | typecheck =>
      obtain ⟨_, _, ran⟩ := @Pass.goOn_typecheck_of_clean settings (.start listening) world _
        (Prod.ext succeeds rfl)
      cases ran.symm.trans ended
      exact ⟨rfl, rfl⟩
  | tests =>
      have first : Pass.updateSnapshots settings world =
        (.ok none, (Pass.updateSnapshots settings world).2) := Prod.ext succeeds rfl
      have ran : Pass.goOn (Pass.tests settings) (.start listening) world = _ := ended
      rw [Pass.goOn_tests, first] at ran
      cases searched : TestFile.find world.disk settings.testDirectory settings.root with
      | error e =>
          rw [searched] at ran
          cases ran
      | ok testFiles =>
          rw [searched] at ran
          cases ran
          exact ⟨rfl, rfl⟩

theorem rechecked_of_failure
    (fails : (World.make (command.firstCall settings) world).1 = .ok (some output))
    (ended : (command.pass settings).perform listening world = (.ok (report, last), after)) :
    ∃ between, between.script = (World.make (command.firstCall settings) world).2.script ∧
      between.calls = (World.make (command.firstCall settings) world).2.calls ∧
      Pass.Rechecked command.tool settings (World.make (command.lastCall settings)) between report
        after := by
  cases command with
  | typecheck =>
      have ran : Pass.goOn (Pass.typecheck settings) (.start listening) world = _ := ended
      rw [Pass.goOn_typecheck_of_failing (Prod.ext fails rfl)] at ran
      cases parsed : Diagnostic.parse output with
      | error e =>
          rw [parsed] at ran
          cases ran
      | ok diagnostics =>
          simp only [parsed] at ran
          obtain ⟨_, _, _, noted, fixing⟩ := Pass.exists_of_goOn_bind ran
          rw [Pass.goOn_noteFound] at noted
          cases noted
          obtain ⟨_, _, between, fixed, concluded⟩ := Pass.exists_of_goOn_bind fixing
          -- fixing calls no tool, so the last call is made with the script that the first one left
          obtain ⟨script, calls⟩ := Pass.callsNone_fixTypes settings diagnostics _ _
          rw [fixed] at script calls
          exact ⟨between, script, calls, Pass.rechecked_of_conclude concluded⟩
  | tests =>
      have first : Pass.updateSnapshots settings world =
        (.ok (some output), (Pass.updateSnapshots settings world).2) := Prod.ext fails rfl
      have ran : Pass.goOn (Pass.tests settings) (.start listening) world = _ := ended
      rw [Pass.goOn_tests, first] at ran
      cases searched : TestFile.find world.disk settings.testDirectory settings.root with
      | error e =>
          rw [searched] at ran
          cases ran
      | ok testFiles =>
          cases parsed : Diagnostic.parse output with
          | error e =>
              simp only [searched, parsed] at ran
              cases ran
          | ok diagnostics =>
              simp only [searched, parsed] at ran
              obtain ⟨_, _, between, fixed, concluded⟩ := Pass.exists_of_goOn_bind ran
              obtain ⟨script, calls⟩ := Pass.callsNone_fixTests settings testFiles _ _
              rw [fixed] at script calls
              exact ⟨between, script, calls, Pass.rechecked_of_conclude concluded⟩

theorem noFeed_tool (command : Command) : '\n' ∉ command.tool := by
  cases command <;> decide

/-- The lines of a summary after the first: how many diagnostics are left, and as many of them as
the settings allow. -/
def remainder (tool : Text) (settings : Settings) (remaining : List Diagnostic) : List Text :=
  (tool ++ ": " ++ Text.ofNat remaining.length ++
      " diagnostic(s) remain (may require manual review)") ::
    (remaining.take settings.reportLimit).map ("  " ++ ·.render)

theorem split_summary_of_rechecked {between : World}
    {rerun : World → Except CallError (Option Text) × World}
    (rechecked : Pass.Rechecked command.tool settings rerun between report after)
    (shown : report.finalOutput = some output) :
    ∃ title, LineEnding.lf.split report.summary =
      title :: remainder command.tool settings report.remaining := by
  have parsed : Diagnostic.parse output = .ok report.remaining := by
    have left := rechecked.left
    rwa [shown] at left
  have lines := report.split_summary (rechecked.tool ▸ noFeed_tool command)
    fun _ => Diagnostic.noFeed_render parsed
  refine ⟨_, lines.trans (congrArg _ ?_)⟩
  rw [Report.verdict, rechecked.clean, shown, rechecked.tool, rechecked.limit, Report.upTo_ofNat]
  rfl

theorem failure_is_reported
    (ended : (command.pass settings).perform listening world = (.ok (report, last), after)) :
    (report.clean = true ↔ (world.run 0).result.Succeeded) ∧
    (report.clean = true → after.calls = world.calls ++ [command.firstCall settings] ∧
      after.disk = (world.run 0).effect world.disk) ∧
    (report.clean = false →
      after.calls = world.calls ++ [command.firstCall settings, command.lastCall settings] ∧
      (report.finalOutput = none ↔ (world.run 1).result.Succeeded) ∧
      ∀ output, report.finalOutput = some output →
        Text.allBlank output = false ∧ Diagnostic.parse output = .ok report.remaining ∧
        ∃ title, LineEnding.lf.split report.summary =
          title :: remainder command.tool settings report.remaining) := by
  obtain ⟨none | output, ran⟩ := answered_of_perform ended
  · obtain ⟨clean, rfl⟩ := report_of_success ran ended
    have succeeded := (World.clean_iff_of_make ran).1 rfl
    rw [World.make_of_ok ran]
    refine ⟨iff_of_true clean succeeded, fun _ => ⟨rfl, rfl⟩, fun failed => ?_⟩
    cases clean.symm.trans failed
  · have failed : ¬ (world.run 0).result.Succeeded := by
      rw [← World.clean_iff_of_make ran]
      exact Option.some_ne_none output
    obtain ⟨between, script, calls, rechecked⟩ := rechecked_of_failure ran ended
    rw [World.make_of_ok ran] at script calls
    have again : between.run 0 = world.run 1 := World.run_zero_of_tail script
    have final : (World.make (command.lastCall settings) between).1 = .ok report.finalOutput :=
      congrArg Prod.fst rechecked.ran
    have finish : World.make (command.lastCall settings) between =
        between.start (command.lastCall settings) := World.make_of_ok final
    have unclean : ¬ report.clean = true := by simp [rechecked.clean]
    refine ⟨iff_of_false unclean failed, fun clean => absurd clean unclean, fun _ => ⟨?_, ?_, ?_⟩⟩
    · have called : between.calls ++ [command.lastCall settings] = after.calls :=
        congrArg (World.calls ∘ Prod.snd) (finish.symm.trans rechecked.ran)
      rw [← called, calls]
      exact List.append_assoc ..
    · rw [World.clean_iff_of_make final, again]
    · intro output shown
      have left := rechecked.left
      rw [finish, shown] at final
      rw [shown] at left
      exact ⟨ToolResult.allBlank_of_answer final, left,
        split_summary_of_rechecked rechecked shown⟩

def tersely : Settings :=
  { Settings.ofRoot ⟨.root, []⟩ with reportLimit := 1 }

def twoDiagnostics : List Diagnostic := [
  ⟨"a.ts", 1, 7, "TS1", "m", "a.ts(1,7): error TS1: m"⟩,
  ⟨"b.ts", 2, 3, "TS2", "n", "b.ts(2,3): error TS2: n"⟩]

def unstartedWorld : World where
  disk := Disk.empty []
  script := [⟨.notStarted .notFound none, id⟩,
    ⟨.exited 2 (Text.join ['\n'] (twoDiagnostics.map (·.wholeLine))) [], id⟩]
  calls := []

theorem failure_is_reported_unstarted :
    ∃ report last after,
      (typecheck.pass tersely).perform true unstartedWorld = (.ok (report, last), after) ∧
      report.clean = false ∧
      after.calls = [typecheck.firstCall tersely, typecheck.lastCall tersely] ∧
      ∃ title, LineEnding.lf.split report.summary =
        [title, "TypeScript: 2 diagnostic(s) remain (may require manual review)".toList,
          "  a.ts:1 - m".toList] := by
  have ran : ∃ report last after,
      (typecheck.pass tersely).perform true unstartedWorld = (.ok (report, last), after) ∧
      decide (report.remaining = twoDiagnostics) = true :=
    Pass.exists_of_perform_holds
      (fun (report : Report) _ => decide (report.remaining = twoDiagnostics)) (by decide +kernel)
  obtain ⟨report, last, after, ended, remaining⟩ := ran
  obtain ⟨clean, _, reported⟩ := failure_is_reported ended
  have unclean : report.clean = false := by
    rw [← Bool.not_eq_true, clean]
    rintro ⟨_, _, same⟩
    cases same
  obtain ⟨calls, resolved, shown⟩ := reported unclean
  refine ⟨report, last, after, ended, unclean, calls, ?_⟩
  cases final : report.finalOutput with
  | none =>
      obtain ⟨_, _, same⟩ := resolved.1 final
      cases same
  | some output =>
      obtain ⟨_, _, title, lines⟩ := shown output final
      rw [of_decide_eq_true remaining] at lines
      have two : remainder typecheck.tool tersely twoDiagnostics =
          ["TypeScript: 2 diagnostic(s) remain (may require manual review)".toList,
            "  a.ts:1 - m".toList] := by decide +kernel
      exact ⟨title, lines.trans (congrArg _ two)⟩

end Command

end DiagnosticRepair
