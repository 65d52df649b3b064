import DiagnosticRepair.Proofs.Pass.FileByFile
import DiagnosticRepair.Proofs.Patch.Reports

namespace DiagnosticRepair

/-- What a line of the log may say about a diagnostic: that its own fix was made, or that it, or
its file, is left to a person. -/
inductive AccountsFor (disk : Disk) (root : Path) (diagnostic : Diagnostic) : Entry → Prop where
  | renamed : ∀ {unused : UnusedName}, Plan.unusedName? diagnostic = some unused →
      AccountsFor disk root diagnostic (Stage.renamedEntry (Path.ofText diagnostic.file) unused)
  | notOnLine : ∀ {unused : UnusedName}, Plan.unusedName? diagnostic = some unused →
      AccountsFor disk root diagnostic (Stage.missedEntry diagnostic.file unused)
  | imported : ∀ {statement : Text} {path : Path} {location : Location},
      Plan.statement? diagnostic = some statement →
      disk.place? (Stage.named root diagnostic.file) = some location →
      disk.place? (root ++ path) = some location →
      AccountsFor disk root diagnostic (Stage.addedEntry path statement)
  | reviewed : (Remedy.ofDiagnostic diagnostic).isFixable = false →
      AccountsFor disk root diagnostic ⟨.warning, "Manual review needed in " ++ diagnostic.location
        ++ ": " ++ (Remedy.ofDiagnostic diagnostic).reason⟩
  | missing : disk.pathExists (Stage.named root diagnostic.file) = .ok false →
      AccountsFor disk root diagnostic ⟨.warning, "Skipping missing file " ++ diagnostic.file⟩
  | failed : ∀ {label reason : Text}, disk.text? (Stage.named root diagnostic.file) = none →
      AccountsFor disk root diagnostic
        (Stage.failure label (Path.ofText diagnostic.file) reason)

/-- The import that a diagnostic asks for, but for a last semicolon, occurs in its file once the
unused names are renamed. -/
def AlreadyImported (disk : Disk) (root : Path) (diagnostics : List Diagnostic)
    (diagnostic : Diagnostic) : Prop :=
  ∃ statement text, Plan.statement? diagnostic = some statement ∧
    (Stage.unusedNames root (Plan.unusedNames diagnostics) disk).2.text?
      (Stage.named root diagnostic.file) = some text ∧
    Text.occursIn (ImportBlock.needle statement) text = true

instance (disk : Disk) (root : Path) (diagnostics : List Diagnostic) (diagnostic : Diagnostic) :
    Decidable (AlreadyImported disk root diagnostics diagnostic) :=
  decidable_of_iff
    (((Plan.statement? diagnostic).any fun statement =>
      ((Stage.unusedNames root (Plan.unusedNames diagnostics) disk).2.text?
        (Stage.named root diagnostic.file)).any fun text =>
          Text.occursIn (ImportBlock.needle statement) text) = true)
    (by simp only [Option.any_eq_true, AlreadyImported, exists_and_left])

namespace Plan

theorem conventional_imports (diagnostics : List Diagnostic) :
    Stage.Conventional (imports diagnostics) := by
  intro group listed
  rw [statements_of_mem_imports listed]
  refine ⟨fun s wanted => ?_, nodup_statementsOf⟩
  obtain ⟨d, _, _, asked⟩ := mem_statementsOf.1 wanted
  exact Conventions.mem_statements_of_statement? asked

end Plan

namespace Pass

variable {settings : Settings} {recorder last : Recorder} {world after : World} {output : Text}
  {report : Report}

def TypeRepair.later (repair : TypeRepair settings recorder world output report last after)
    (tally : Text) : List Entry :=
  (foundNotes repair.diagnostics output).tail.flatMap (·.entries)
    ++ ⟨.info, "Fixing unused variables..."⟩ :: repair.renames.entries
    ++ ⟨.info, "Fixing missing imports..."⟩ :: repair.inserts.entries
    ++ ⟨.info, "Checking remaining diagnostics..."⟩ :: (Plan.review repair.diagnostics).entries
    ++ ⟨.info, "Verifying fixes..."⟩ ::
      (recheckNotes typeTool false report.finalOutput repair.remaining).flatMap (·.entries)
    ++ [⟨.info, tally⟩]

theorem TypeRepair.entries (repair : TypeRepair settings recorder world output report last after) :
    ∃ tally, report.journal.entries = recorder.journal.entries ++
      (⟨.info, "Running TypeScript auto-fixer..."⟩ ::
        ⟨.info, "Found " ++ count repair.diagnostics ++ " TypeScript errors"⟩ ::
          repair.later tally) := by
  have journal : report.journal = last.journal := congrArg Report.journal repair.reported
  have split : foundNotes repair.diagnostics output =
      logged .info ("Found " ++ count repair.diagnostics ++ " TypeScript errors") ::
        (foundNotes repair.diagnostics output).tail := rfl
  obtain ⟨tally, ended⟩ := entries_concluded typeTool false "Verifying fixes..." "Fixed files: "
    report.finalOutput repair.remaining
    (recorder.keepAll ([logged .info "Running TypeScript auto-fixer..."] ++
      foundNotes repair.diagnostics output ++
      fixNotes repair.diagnostics repair.renames repair.inserts))
  rw [← repair.recorded] at ended
  refine ⟨tally, ?_⟩
  rw [journal, ended, Recorder.entries_keepAll, split]
  simp only [fixNotes, later, List.flatMap_append, List.flatMap_cons, List.flatMap_nil, logged,
    Outcome.ofEntry, Outcome.ofEntries, List.append_assoc, List.cons_append, List.append_nil,
    List.nil_append]

section

variable {d : Diagnostic}

theorem TypeRepair.exists_account_of_unusedName?
    (repair : TypeRepair settings recorder world output report last after) {unused : UnusedName}
    (member : d ∈ repair.diagnostics) (h : Plan.unusedName? d = some unused) :
    ∃ entry ∈ repair.renames.entries,
      AccountsFor (World.check settings world).2.disk settings.root d entry := by
  obtain ⟨names, listed, asked⟩ := Plan.exists_group_of_unusedName? member h
  obtain ⟨outcomes, trace, total⟩ := Stage.unusedNames_eq_ok_iff.1 repair.renameRun
  obtain ⟨before, first, middle, outcome, next, early, _, _, ran, counted⟩ := trace.exists_of_mem listed
  have same := Stage.trace_sameButTexts (Stage.renameWork_fixes settings.root) early
  have inside : ∀ entry ∈ outcome.entries, entry ∈ repair.renames.entries := by
    intro entry reported
    rw [total, Outcome.entries_sum]
    exact List.mem_flatMap.2 ⟨outcome, counted, reported⟩
  rcases Stage.onGroup_outcome (Stage.renameWork_fixes settings.root) same ran with
    ⟨gone, rfl⟩ | ⟨unread, reason, rfl⟩ | ⟨text, _, rfl⟩
  · exact ⟨_, inside _ (List.mem_cons_self ..), .missing gone⟩
  · exact ⟨_, inside _ (List.mem_cons_self ..), .failed unread⟩
  · rcases Stage.mem_editUnusedNamesReport (Path.ofText d.file) d.file text asked with
      renamed | missed
    · exact ⟨_, inside _ renamed, .renamed h⟩
    · exact ⟨_, inside _ missed, .notOnLine h⟩

theorem TypeRepair.exists_account_of_statement?
    (repair : TypeRepair settings recorder world output report last after) {statement : Text}
    (member : d ∈ repair.diagnostics) (h : Plan.statement? d = some statement)
    (absent : ∀ text, repair.renamed.text? (Stage.named settings.root d.file) = some text →
      ¬ ImportBlock.needle statement <:+: text) :
    ∃ entry ∈ repair.inserts.entries,
      AccountsFor (World.check settings world).2.disk settings.root d entry := by
  -- A diagnostic that asks for an import is accounted for where it does not occur already: an
  -- import may have come into the file under another of its names.
  have conventional := Plan.conventional_imports repair.diagnostics
  have known := Conventions.mem_statements_of_statement? h
  have renamed := Stage.sameButTexts_of_unusedNames repair.renameRun
  obtain ⟨wanted, listed, asked⟩ := Plan.exists_group_of_statement? member h
  obtain ⟨outcomes, trace, total⟩ := Stage.imports_eq_ok_iff.1 repair.insertRun
  have inside : ∀ outcome ∈ outcomes, ∀ entry ∈ outcome.entries, entry ∈ repair.inserts.entries := by
    intro outcome counted entry reported
    rw [total, Outcome.entries_sum]
    exact List.mem_flatMap.2 ⟨outcome, counted, reported⟩
  obtain ⟨before, first, middle, outcome, next, early, planned, reported, ran, counted⟩ :=
    trace.exists_of_mem listed
  have same := Stage.trace_sameButTexts (Stage.insertWork_fixes settings.root) early
  rcases Stage.onGroup_outcome (Stage.insertWork_fixes settings.root) (renamed.trans same) ran with
    ⟨gone, rfl⟩ | ⟨unread, reason, rfl⟩ | ⟨text, read, rfl⟩
  · exact ⟨_, inside _ counted _ (List.mem_cons_self ..), .missing gone⟩
  · exact ⟨_, inside _ counted _ (List.mem_cons_self ..), .failed unread⟩
  · have found := Disk.nodeAt?_of_text?_some read
    obtain ⟨location, leads, there⟩ := Disk.nodeAt?_eq_some_iff.1 found
    rw [same.place?_eq] at leads
    have leads_before : (World.check settings world).2.disk.place?
        (Stage.named settings.root d.file) = some location := by
      rwa [renamed.place?_eq] at leads
    by_cases present : ImportBlock.needle statement <:+: text
    · have there_before : ∃ text, repair.renamed.find? location = some (.file (Utf8.encode text)) := by
        rcases same.node location with kept | ⟨old, _, was, _⟩
        · exact ⟨text, kept ▸ there⟩
        · exact ⟨old, was⟩
      obtain ⟨old, was⟩ := there_before
      have read_before : repair.renamed.text? (Stage.named settings.root d.file) = some old :=
        Disk.text?_of_nodeAt? (Disk.nodeAt?_eq_some_iff.2 ⟨location, leads, was⟩)
      obtain ⟨chosen, there', path, leads', added⟩ := Stage.exists_addedEntry_of_trace
        (fun group early => conventional group (planned group early)) known early was
        (absent old read_before) there present
      rw [renamed.place?_eq] at leads'
      exact ⟨_, inside chosen (reported chosen there') _ added, .imported h leads_before leads'⟩
    · obtain ⟨statements, nodup⟩ := conventional _ listed
      exact ⟨_, inside _ counted _
        ((Stage.mem_editImportsReport statements nodup).2 ⟨statement, asked, present, rfl⟩),
        .imported h leads_before leads_before⟩

theorem mem_review_entries (member : d ∈ diagnostics)
    (h : (Remedy.ofDiagnostic d).isFixable = false) :
    (⟨.warning, "Manual review needed in " ++ d.location ++ ": "
      ++ (Remedy.ofDiagnostic d).reason⟩ : Entry) ∈ (Plan.review diagnostics).entries :=
  List.mem_map.2 ⟨d, List.mem_filter.2 ⟨member, by simp [h]⟩, rfl⟩

theorem TypeRepair.mem_inserts_of_addedEntry
    (repair : TypeRepair settings recorder world output report last after) {tally statement : Text}
    {path : Path} (h : Stage.addedEntry path statement ∈ repair.later tally) :
    Stage.addedEntry path statement ∈ repair.inserts.entries := by
  have not_info : ∀ message, Stage.addedEntry path statement ≠ ⟨.info, message⟩ :=
    fun message same => by cases congrArg Entry.category same
  have not_warning : ∀ message, Stage.addedEntry path statement ≠ ⟨.warning, message⟩ :=
    fun message same => by cases congrArg Entry.category same
  have not_found : Stage.addedEntry path statement ∉
      (foundNotes repair.diagnostics output).tail.flatMap (·.entries) := by
    unfold foundNotes
    rw [List.tail_cons]
    split
    · simp [logged, Outcome.ofEntry, Outcome.ofEntries, not_info]
    · simp
  have not_renamed : Stage.addedEntry path statement ∉ repair.renames.entries := by
    obtain ⟨outcomes, trace, total⟩ := Stage.unusedNames_eq_ok_iff.1 repair.renameRun
    rw [total, Outcome.entries_sum]
    intro reported
    obtain ⟨outcome, counted, reported⟩ := List.mem_flatMap.1 reported
    obtain ⟨_, _, _, group, _, _, _, _, ran⟩ := trace.exists_of_mem_outcomes counted
    rcases Stage.onGroup_outcome (Stage.renameWork_fixes settings.root) (.refl _) ran with
      ⟨_, rfl⟩ | ⟨_, reason, rfl⟩ | ⟨text, _, rfl⟩
    · cases congrArg Entry.category (List.mem_singleton.1 reported)
    · cases congrArg Entry.category (List.mem_singleton.1 reported)
    · exact Stage.addedEntry_not_mem_editUnusedNamesReport reported
  have not_review : Stage.addedEntry path statement ∉ (Plan.review repair.diagnostics).entries := by
    intro reported
    obtain ⟨d, _, same⟩ := List.mem_map.1 reported
    exact not_warning _ same.symm
  have not_recheck : Stage.addedEntry path statement ∉
      (recheckNotes typeTool false report.finalOutput repair.remaining).flatMap (·.entries) := by
    unfold recheckNotes
    cases report.finalOutput with
    | none =>
        intro reported
        have same : Stage.addedEntry path statement = ⟨.success, _⟩ := List.mem_singleton.1 reported
        have second : (some 'd' : Option Char) = some 'l' :=
          congrArg (fun entry => entry.message[1]?) same
        cases second
    | some output =>
        simp only
        split <;> simp [logged, Outcome.ofEntry, Outcome.ofEntries, not_info, not_warning]
  simpa [TypeRepair.later, not_info, not_found, not_renamed, not_review, not_recheck] using h

theorem TypeRepair.not_accounted
    (repair : TypeRepair settings recorder world output report last after) {tally statement text : Text}
    (h : Plan.statement? d = some statement)
    (read : repair.renamed.text? (Stage.named settings.root d.file) = some text)
    (present : ImportBlock.needle statement <:+: text) {entry : Entry}
    (listed : entry ∈ repair.later tally) :
    ¬ AccountsFor (World.check settings world).2.disk settings.root d entry := by
  have renamed := Stage.sameButTexts_of_unusedNames repair.renameRun
  have stands := Disk.nodeAt?_of_text?_some read
  obtain ⟨location, leads, there⟩ := Disk.nodeAt?_eq_some_iff.1 stands
  intro accounts
  cases accounts with
  | renamed unused => rw [Plan.unusedName?_of_statement? h] at unused; cases unused
  | notOnLine unused => rw [Plan.unusedName?_of_statement? h] at unused; cases unused
  | reviewed left => rw [Plan.isFixable_of_statement? h] at left; cases left
  | missing gone =>
      have short := Disk.not_tooLong_of_nodeAt? stands
      rw [renamed.sameDirectories.tooLong_iff] at short
      rw [Disk.pathExists, Disk.test_of_not_tooLong _ short] at gone
      cases found : (World.check settings world).2.disk.nodeAt? (Stage.named settings.root d.file) with
      | none =>
          rw [renamed.nodeAt?_eq_none_iff.2 found] at stands
          cases stands
      | some node =>
          rw [found] at gone
          cases gone
  | failed unread =>
      rw [renamed.text?_eq_none_iff.2 unread] at read
      cases read
  | @imported statement' path location' asked leads_file leads_path =>
      obtain rfl : statement' = statement := Option.some.inj (asked.symm.trans h)
      have here : location' = location := by
        rw [renamed.place?_eq] at leads
        exact Option.some.inj (leads_file.symm.trans leads)
      subst here
      have inserted := repair.mem_inserts_of_addedEntry listed
      obtain ⟨outcomes, trace, total⟩ := Stage.imports_eq_ok_iff.1 repair.insertRun
      rw [total, Outcome.entries_sum] at inserted
      obtain ⟨outcome, counted, reported⟩ := List.mem_flatMap.1 inserted
      exact Stage.not_infix_of_addedEntry (Plan.conventional_imports repair.diagnostics)
        (Conventions.mem_statements_of_statement? h) trace counted reported
        ((renamed.place?_eq _).trans leads_path) there present

end

theorem typecheck_accounts_for_iff {listening : Bool} {diagnostics : List Diagnostic}
    (failing : (World.check settings world).1 = .ok (some output))
    (parsed : Diagnostic.parse output = .ok diagnostics)
    (ended : (typecheck settings).perform listening world = (.ok (report, last), after)) :
    ∃ later, report.journal.entries =
        ⟨.info, "Running TypeScript auto-fixer..."⟩ ::
          ⟨.info, "Found " ++ count diagnostics ++ " TypeScript errors"⟩ :: later ∧
      ∀ d ∈ diagnostics,
        (∃ entry ∈ later, AccountsFor (World.check settings world).2.disk settings.root d entry) ↔
          ¬ AlreadyImported (World.check settings world).2.disk settings.root diagnostics d := by
  obtain ⟨repair⟩ := typeRepair_of_goOn failing ended
  obtain rfl : repair.diagnostics = diagnostics := Except.ok.inj (repair.parsed.symm.trans parsed)
  obtain ⟨tally, entries⟩ := repair.entries
  refine ⟨repair.later tally, entries, fun d member => ⟨?_, fun fresh => ?_⟩⟩
  · rintro ⟨entry, listed, accounts⟩ ⟨statement, text, asked, read, present⟩
    rw [repair.renameRun] at read
    exact repair.not_accounted asked read (Text.occursIn_iff_infix.1 present) listed accounts
  · have inside : ∀ part : List Entry, (∀ entry ∈ part, entry ∈ repair.later tally) →
        (∃ entry ∈ part,
          AccountsFor (World.check settings world).2.disk settings.root d entry) →
        ∃ entry ∈ repair.later tally,
          AccountsFor (World.check settings world).2.disk settings.root d entry := by
      rintro part whole ⟨entry, listed, accounts⟩
      exact ⟨entry, whole entry listed, accounts⟩
    rcases Plan.remedy_cases d with ⟨unused, asked⟩ | ⟨statement, asked⟩ | left
    · refine inside repair.renames.entries ?_ (repair.exists_account_of_unusedName? member asked)
      intro entry listed
      simp [TypeRepair.later, listed]
    · refine inside repair.inserts.entries ?_ (repair.exists_account_of_statement? member asked ?_)
      · intro entry listed
        simp [TypeRepair.later, listed]
      · intro text read present
        refine fresh ⟨statement, text, asked, ?_, Text.occursIn_iff_infix.2 present⟩
        rw [repair.renameRun]
        exact read
    · refine inside (Plan.review repair.diagnostics).entries ?_
        ⟨_, mem_review_entries member left, .reviewed left⟩
      intro entry listed
      simp [TypeRepair.later, listed]

theorem typecheck_accounts_for_mixed :
    ∃ report last after later,
      (typecheck (.ofRoot ⟨.root, []⟩)).perform true mixedWorld = (.ok (report, last), after) ∧
      report.journal.entries = ⟨.info, "Running TypeScript auto-fixer..."⟩ ::
        ⟨.info, "Found " ++ count mixedDiagnostics ++ " TypeScript errors"⟩ :: later ∧
      ∀ d ∈ mixedDiagnostics, ∃ entry ∈ later,
        AccountsFor (World.check (.ofRoot ⟨.root, []⟩) mixedWorld).2.disk ⟨.root, []⟩ d entry := by
  obtain ⟨report, last, after, ended⟩ := exists_of_perform mixedWorld_returns
  have failing : (World.check (.ofRoot ⟨.root, []⟩) mixedWorld).1 = .ok (some mixedOutput) := rfl
  have fresh : ∀ d ∈ mixedDiagnostics,
      ¬ AlreadyImported (World.check (.ofRoot ⟨.root, []⟩) mixedWorld).2.disk ⟨.root, []⟩
        mixedDiagnostics d := by
    decide +kernel
  obtain ⟨later, entries, accounted⟩ := typecheck_accounts_for_iff failing parse_mixedOutput ended
  exact ⟨report, last, after, later, ended, entries,
    fun d member => (accounted d member).2 (fresh d member)⟩

def commentedDiagnostic : Diagnostic where
  file := "a.tsx"
  line := 2
  column := 1
  code := "TS2304"
  message := "Cannot find name 'useState'."
  wholeLine := "a.tsx(2,1): error TS2304: Cannot find name 'useState'."

def commentedWorld : World where
  disk := (Disk.empty []).put [] ⟨"a.tsx".toList, by decide⟩
    (.file (Utf8.encode "// import \x7b useState \x7d from 'react'\nuseState();\n".toList))
  script := [⟨.exited 2 commentedDiagnostic.wholeLine [], id⟩]
  calls := []

theorem typecheck_swallows_commented :
    ∃ report last after later,
      (typecheck (.ofRoot ⟨.root, []⟩)).perform true commentedWorld = (.ok (report, last), after) ∧
      report.diagnostics = [commentedDiagnostic] ∧
      report.journal.entries = ⟨.info, "Running TypeScript auto-fixer..."⟩ ::
        ⟨.info, "Found " ++ count [commentedDiagnostic] ++ " TypeScript errors"⟩ :: later ∧
      ∀ entry ∈ later, ¬ AccountsFor (World.check (.ofRoot ⟨.root, []⟩) commentedWorld).2.disk
        ⟨.root, []⟩ commentedDiagnostic entry := by
  have returns :
      ((typecheck (.ofRoot ⟨.root, []⟩)).perform true commentedWorld).1.toOption.isSome = true := by
    decide +kernel
  obtain ⟨report, last, after, ended⟩ := exists_of_perform returns
  have failing : (World.check (.ofRoot ⟨.root, []⟩) commentedWorld).1 =
      .ok (some commentedDiagnostic.wholeLine) := rfl
  have parsed : Diagnostic.parse commentedDiagnostic.wholeLine = .ok [commentedDiagnostic] :=
    Diagnostic.parse_of_toOption (by decide +kernel)
  obtain ⟨repair⟩ := typeRepair_of_goOn failing ended
  obtain ⟨tally, entries⟩ := repair.entries
  have found : repair.diagnostics = [commentedDiagnostic] :=
    Except.ok.inj (repair.parsed.symm.trans parsed)
  have imported : AlreadyImported (World.check (.ofRoot ⟨.root, []⟩) commentedWorld).2.disk
      (Settings.ofRoot ⟨.root, []⟩).root repair.diagnostics commentedDiagnostic := by
    rw [found]
    decide +kernel
  obtain ⟨statement, text, asked, read, present⟩ := imported
  rw [repair.renameRun] at read
  refine ⟨report, last, after, repair.later tally, ended, ?_, found ▸ entries, ?_⟩
  · rw [repair.reported]
    exact found
  · exact fun entry listed =>
      repair.not_accounted asked read (Text.occursIn_iff_infix.1 present) listed

end Pass

end DiagnosticRepair
