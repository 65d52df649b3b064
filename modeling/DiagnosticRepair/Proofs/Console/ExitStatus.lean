import DiagnosticRepair.Proofs.Pass.Completion
import DiagnosticRepair.Proofs.Settings.Loading
import DiagnosticRepair.Proofs.Text.Decoding
import DiagnosticRepair.Console.Command
import DiagnosticRepair.Yaml.Library

namespace DiagnosticRepair.Command

variable {V C X : Type} {library : Settings.Library V C X} {command : Command} {world : World}
  {settings : Settings}

def PassStops : Command → Settings → World → Prop
  | typecheck => Pass.TypecheckStops
  | tests => Pass.TestsStop

/-- What a command leaves to whoever started it. -/
inductive Stops (library : Settings.Library V C X) (command : Command) (world : World) : Prop where
  | load : Settings.LoadStops library world.disk → Stops library command world
  | pass : ∀ {settings : Settings}, Settings.load library world.disk ⟨.here, []⟩ = .ok settings →
      command.PassStops settings world → Stops library command world

inductive Shows (library : Settings.Library V C X) (command : Command) (world : World) :
    List Text → Prop where
  | rejection : ∀ {rejection : Settings.Rejection V C},
      Settings.load library world.disk ⟨.here, []⟩ = .error (.config rejection) →
      Shows library command world [Entry.render ⟨.error, rejection.message library⟩]
  | report : ∀ {settings : Settings} {report : Report} {last : Recorder} {after : World},
      Settings.load library world.disk ⟨.here, []⟩ = .ok settings →
      (command.pass settings).perform true world = (.ok (report, last), after) →
      Shows library command world (report.journal.entries.map Entry.render ++ [[], report.summary])

theorem pass_completes_iff (command : Command) (world : World)
    (loaded : Settings.load library world.disk ⟨.here, []⟩ = .ok settings) :
    Pass.Completes (command.pass settings) (.start true) world ↔
      ¬ command.PassStops settings world := by
  cases command with
  | typecheck => exact Pass.typecheck_completes_iff (Settings.ne_nil_of_load loaded).1
  | tests => exact Pass.tests_completes_iff (Settings.isAbsolute_of_load loaded)

theorem emitted_of_perform {report : Report} {last : Recorder} {after : World}
    (ended : (command.pass settings).perform true world = (.ok (report, last), after)) :
    last.emitted = report.journal.entries := by
  have logged : Pass.Logged (.start true) last report := by
    cases command with
    | typecheck => exact Pass.logged_of_typecheck ended
    | tests => exact Pass.logged_of_tests ended
  obtain ⟨outcomes, recorded⟩ := logged.recorded
  rw [logged.journal, recorded]
  exact Recorder.emitted_of_isComplete (Recorder.isComplete_keepAll outcomes rfl)

theorem rejection_of_not_fails {e : Settings.LoadError V C X}
    (loaded : Settings.load library world.disk ⟨.here, []⟩ = .error e)
    (caused : ¬ Settings.Fails (Settings.load library world.disk ⟨.here, []⟩)) :
    ∃ rejection, e = .config rejection := by
  refine Classical.byContradiction fun apart => caused ⟨e, loaded, fun rejection same => ?_⟩
  exact apart ⟨rejection, same⟩

theorem run_of_rejection {rejection : Settings.Rejection V C}
    (loaded : Settings.load library world.disk ⟨.here, []⟩ = .error (.config rejection)) :
    command.run library world = (.ok [Entry.render ⟨.error, rejection.message library⟩], world) := by
  rw [run, loaded]

theorem run_of_fails (command : Command)
    (fails : Settings.Fails (Settings.load library world.disk ⟨.here, []⟩)) :
    ∃ e, command.run library world = (.error (.load e), world) := by
  obtain ⟨e, ended, apart⟩ := fails
  refine ⟨e, ?_⟩
  rw [run, ended]
  cases e with
  | config r => exact absurd rfl (apart r)
  | access => rfl
  | undecodable => rfl
  | other => rfl
  | fieldNotText => rfl

theorem run_of_report {report : Report} {last : Recorder} {after : World}
    (loaded : Settings.load library world.disk ⟨.here, []⟩ = .ok settings)
    (ended : (command.pass settings).perform true world = (.ok (report, last), after)) :
    command.run library world = (.ok (reportLines last report), after) := by
  simp only [run, loaded, ended]

theorem run_of_fault {fault : Fault} {after : World}
    (loaded : Settings.load library world.disk ⟨.here, []⟩ = .ok settings)
    (ended : (command.pass settings).perform true world = (.error fault, after)) :
    command.run library world = (.error (.fault fault), after) := by
  simp only [run, loaded, ended]

theorem stops_iff_of_settings (utf8 : library.ReadsUtf8)
    (loaded : Settings.load library world.disk ⟨.here, []⟩ = .ok settings) :
    Stops library command world ↔ command.PassStops settings world := by
  refine ⟨?_, .pass loaded⟩
  rintro (stops | ⟨other, stops⟩)
  · obtain ⟨e, ended, _⟩ := (Settings.load_fails_iff utf8).2 stops
    cases loaded.symm.trans ended
  · cases loaded.symm.trans other
    exact stops

theorem status_eq_zero_iff {α : Type} {result : Except (Failure V C X) α} :
    status result = 0 ↔ ∃ value, result = .ok value := by
  cases result with
  | ok value => exact iff_of_true rfl ⟨value, rfl⟩
  | error failure =>
      refine iff_of_false (by simp [status]) ?_
      rintro ⟨_, same⟩
      cases same

theorem shows_of_run {lines : List Text} (shown : (command.run library world).1 = .ok lines) :
    Shows library command world lines := by
  cases loaded : Settings.load library world.disk ⟨.here, []⟩ with
  | error e =>
      by_cases fails : Settings.Fails (Settings.load library world.disk ⟨.here, []⟩)
      · obtain ⟨e, ran⟩ := run_of_fails command fails
        rw [ran] at shown
        cases shown
      · obtain ⟨rejection, rfl⟩ := rejection_of_not_fails loaded fails
        rw [run_of_rejection loaded] at shown
        cases shown
        exact .rejection loaded
  | ok settings =>
      rcases ended : (command.pass settings).perform true world with
        ⟨fault | ⟨report, last⟩, after⟩
      · rw [run_of_fault loaded ended] at shown
        cases shown
      · rw [run_of_report loaded ended] at shown
        cases shown
        rw [reportLines, emitted_of_perform ended]
        exact .report loaded ended

theorem run_returns_iff (utf8 : library.ReadsUtf8) :
    (∃ lines, (command.run library world).1 = .ok lines) ↔ ¬ Stops library command world := by
  cases loaded : Settings.load library world.disk ⟨.here, []⟩ with
  | error e =>
      by_cases fails : Settings.Fails (Settings.load library world.disk ⟨.here, []⟩)
      · obtain ⟨e, ran⟩ := run_of_fails command fails
        rw [ran]
        refine iff_of_false ?_ fun goes => goes (.load ((Settings.load_fails_iff utf8).1 fails))
        rintro ⟨_, shown⟩
        cases shown
      · obtain ⟨rejection, rfl⟩ := rejection_of_not_fails loaded fails
        rw [run_of_rejection loaded]
        refine iff_of_true ⟨_, rfl⟩ ?_
        rintro (stops | ⟨other, _⟩)
        · exact fails ((Settings.load_fails_iff utf8).2 stops)
        · cases loaded.symm.trans other
  | ok settings =>
      rw [stops_iff_of_settings utf8 loaded, ← pass_completes_iff command world loaded]
      rcases ended : (command.pass settings).perform true world with
        ⟨fault | ⟨report, last⟩, after⟩
      · rw [run_of_fault loaded ended]
        refine iff_of_false ?_ ?_
        · rintro ⟨_, shown⟩
          cases shown
        · rintro ⟨_, _, _, other⟩
          cases ended.symm.trans other
      · rw [run_of_report loaded ended]
        exact iff_of_true ⟨_, rfl⟩ ⟨report, last, after, ended⟩

theorem exits_zero_iff (library : Settings.Library V C X) (utf8 : library.ReadsUtf8)
    (command : Command) (world : World) :
    (status (command.run library world).1 = 0 ↔ ¬ Stops library command world) ∧
      ∀ lines, (command.run library world).1 = .ok lines → Shows library command world lines :=
  ⟨status_eq_zero_iff.trans (run_returns_iff utf8), fun _ => shows_of_run⟩

/-- An empty file has the value that stands for nothing; no other text is a document. -/
def emptyOnly : Settings.Library Unit Text Empty where
  read bytes :=
    match Utf8.decodeStream bytes with
    | .ok [] => .ok ()
    | .ok _ => .error (.malformed [])
    | .error e => .error (.undecodable e)
  isTruthy _ := false
  entries? _ := none
  isText _ := false
  text? _ := none
  display _ := .ok "None"
  words _ := .error [(none, "list_type")]
  path _ := .error "path_type"
  integer _ := .error "int_type"
  negative _ := "greater_than_equal"
  unknown _ := "extra_forbidden"
  violated message _ := message
  report issues := Text.ofNat issues.length

theorem emptyOnly_readsUtf8 : emptyOnly.ReadsUtf8 := by
  intro bytes value read
  cases decoded : Utf8.decodeStream bytes with
  | ok text => exact ⟨text, Utf8.decodeStream_eq_ok_iff.1 decoded⟩
  | error e =>
      simp only [emptyOnly, decoded] at read
      cases read

def undecodableWorld : World where
  disk := (Disk.empty []).put [] ⟨Settings.fileName, by decide⟩ (.file [0xFF])
  script := []
  calls := []

theorem exits_zero_iff_undecodable :
    emptyOnly.ReadsUtf8 ∧ Stops emptyOnly typecheck undecodableWorld ∧
      ¬ Stops emptyOnly typecheck Pass.mixedWorld ∧
      ∃ lines, (typecheck.run emptyOnly Pass.mixedWorld).1 = .ok lines ∧
        Shows emptyOnly typecheck Pass.mixedWorld lines := by
  obtain ⟨zero, _⟩ := exits_zero_iff emptyOnly emptyOnly_readsUtf8 typecheck undecodableWorld
  obtain ⟨zero_mixed, shows⟩ :=
    exits_zero_iff emptyOnly emptyOnly_readsUtf8 typecheck Pass.mixedWorld
  have fails : status (typecheck.run emptyOnly undecodableWorld).1 = 1 := by decide +kernel
  have ends : status (typecheck.run emptyOnly Pass.mixedWorld).1 = 0 := by decide +kernel
  refine ⟨emptyOnly_readsUtf8, Classical.byContradiction fun goes => ?_, zero_mixed.1 ends, ?_⟩
  · rw [zero.2 goes] at fails
    cases fails
  · cases ended : (typecheck.run emptyOnly Pass.mixedWorld).1 with
    | error e =>
        rw [ended] at ends
        cases ends
    | ok lines => exact ⟨lines, rfl, shows lines ended⟩

theorem typecheck_exits_one_undecodable :
    status (typecheck.run emptyOnly undecodableWorld).1 = 1 := by
  decide +kernel

end DiagnosticRepair.Command

namespace DiagnosticRepair

/-- So the exit status of the program itself is as stated. -/
theorem Yaml.library_readsUtf8 : Yaml.library.ReadsUtf8 := by
  intro bytes value read
  cases decoded : Utf8.decodeStream bytes with
  | ok text => exact ⟨text, Utf8.decodeStream_eq_ok_iff.1 decoded⟩
  | error e =>
      simp only [library, documents, readBytes, decoded] at read
      cases read

end DiagnosticRepair
