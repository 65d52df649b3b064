import DiagnosticRepair.Proofs.Pass.Execution
import DiagnosticRepair.Proofs.Patch.NamedFiles
import DiagnosticRepair.Proofs.Diagnostic.Grouping

namespace DiagnosticRepair

theorem UnusedNames.text_rename_nil (text : Text) : (rename text []).text = text :=
  LineEnding.lf.join_split text

theorem ImportBlock.insert_nil (text : Text) : (insert text []).1 = text :=
  insert_of_none text [] rfl

namespace Stage

variable {β : Type} {disk : Disk} {root : Path} {f : Text × List β → Text → Text}
  {location : Location} {groups : Grouped β}

theorem applied_of_none (node : Option Node)
    (h : ∀ group ∈ groups, disk.place? (named root group.1) ≠ some location) :
    applied disk root f location groups node = node := by
  induction groups with
  | nil => rfl
  | cons group rest ih =>
      rw [applied, List.foldl_cons, if_neg (h group (List.mem_cons_self ..))]
      exact ih fun other member => h other (List.mem_cons_of_mem _ member)

theorem applied_of_unreadable (groups : Grouped β) (node : Option Node)
    (unread : node.bind Node.text? = none) :
    applied disk root f location groups node = node := by
  induction groups with
  | nil => rfl
  | cons group rest ih =>
      have kept : node.map (Node.mapText (f group)) = node := by
        cases node with
        | none => rfl
        | some node => rw [Option.map_some, Node.mapText_of_text?_none unread]
      rw [applied, List.foldl_cons, kept, ite_self]
      exact ih

theorem applied_of_only {file : Text} (node : Option Node)
    (leads : disk.place? (named root file) = some location)
    (only : ∀ group ∈ groups, disk.place? (named root group.1) = some location → group.1 = file)
    (nodup : groups.keys.Nodup) (idle : f (file, []) = id) :
    applied disk root f location groups node =
      node.map (Node.mapText (f (file, groups.get file))) := by
  induction groups generalizing node with
  | nil =>
      have untouched : Node.mapText (f (file, Grouped.get [] file)) = id := by
        rw [show f (file, Grouped.get [] file) = id from idle]
        exact funext Node.mapText_id
      rw [untouched, Option.map_id]
      rfl
  | cons group rest ih =>
      obtain ⟨key, values⟩ := group
      rw [Grouped.keys, List.map_cons, List.nodup_cons] at nodup
      have only_rest : ∀ group ∈ rest, disk.place? (named root group.1) = some location →
          group.1 = file := fun other member => only other (List.mem_cons_of_mem _ member)
      by_cases same : key = file
      · subst same
        have others : ∀ group ∈ rest, disk.place? (named root group.1) ≠ some location := by
          intro other member there
          exact nodup.1 (List.mem_map.2 ⟨other, member, only_rest other member there⟩)
        rw [applied, List.foldl_cons, if_pos leads]
        refine (applied_of_none _ others).trans ?_
        simp [Grouped.get]
      · have elsewhere : disk.place? (named root key) ≠ some location :=
          mt (only (key, values) (List.mem_cons_self ..)) same
        rw [applied, List.foldl_cons, if_neg elsewhere]
        refine (ih node only_rest nodup.2).trans ?_
        simp [Grouped.get, List.lookup_cons, beq_false_of_ne (Ne.symm same)]

end Stage

def World.Quiet (world : World) : Prop :=
  ∀ run ∈ world.script, ∀ disk, run.effect disk = disk

namespace World

variable {world : World} {settings : Settings}

theorem quiet_of_script {result : ToolResult} (h : world.script = [⟨result, id⟩]) :
    world.Quiet := by
  intro run member disk
  rw [h] at member
  rw [List.mem_singleton.1 member]
  rfl

theorem disk_call_of_quiet (quiet : world.Quiet) (words : List Text) (directory : Path) :
    (call words directory world).2.disk = world.disk := by
  refine call_keeps (fun after => after.disk = world.disk) rfl (fun _ => ?_) words directory
  show (world.script.head?.getD .clean).effect world.disk = world.disk
  cases runs : world.script with
  | nil => rfl
  | cons run rest => exact quiet run (runs ▸ List.mem_cons_self ..) world.disk

theorem quiet_call (quiet : world.Quiet) (words : List Text) (directory : Path) :
    (call words directory world).2.Quiet :=
  call_keeps Quiet quiet (fun _ run member => quiet run (List.mem_of_mem_tail member)) words directory

theorem disk_check_of_quiet (quiet : world.Quiet) :
    (check settings world).2.disk = world.disk :=
  disk_call_of_quiet quiet _ _

theorem quiet_check (quiet : world.Quiet) : (check settings world).2.Quiet :=
  quiet_call quiet _ _

theorem disk_test_of_quiet (quiet : world.Quiet) (options : TestOptions) :
    (test settings options world).2.disk = world.disk :=
  disk_call_of_quiet quiet _ _

theorem quiet_test (quiet : world.Quiet) (options : TestOptions) :
    (test settings options world).2.Quiet :=
  quiet_call quiet _ _

end World

namespace Plan

/-- What a pass is to make of a file's text: its unused names renamed on the lines that the checker
reported, and after that the imports inserted that are asked for. -/
def repaired (diagnostics : List Diagnostic) (file text : Text) : Text :=
  (ImportBlock.insert (UnusedNames.rename text (namesOf diagnostics file)).text
    (statementsOf diagnostics file)).1

/-- Different names in the diagnostics stand for different files. -/
def NamedApart (disk : Disk) (root : Path) (diagnostics : List Diagnostic) : Prop :=
  ∀ d ∈ diagnostics, ∀ e ∈ diagnostics, ∀ location bytes,
    disk.place? (Stage.named root d.file) = some location →
    disk.place? (Stage.named root e.file) = some location →
    disk.find? location = some (.file bytes) → d.file = e.file

variable {diagnostics : List Diagnostic} {file : Text}

theorem exists_of_mem_perFile {group : Text × List UnusedName}
    (h : group ∈ perFile (unusedNames diagnostics)) : ∃ d ∈ diagnostics, d.file = group.1 := by
  obtain ⟨name, member, same⟩ := mem_keys_perFile.1 (List.mem_map.2 ⟨group, h, rfl⟩)
  obtain ⟨diagnostic, reported, unused⟩ := mem_unusedNames.1 member
  refine ⟨diagnostic, reported, ?_⟩
  rw [← same]
  unfold unusedName? at unused
  split at unused
  · exact congrArg UnusedName.file (Option.some.inj unused)
  · cases unused

theorem exists_of_mem_imports {group : Text × List Text} (h : group ∈ imports diagnostics) :
    ∃ d ∈ diagnostics, d.file = group.1 := by
  obtain ⟨diagnostic, reported, same, _⟩ := mem_keys_imports.1 (List.mem_map.2 ⟨group, h, rfl⟩)
  exact ⟨diagnostic, reported, same⟩

end Plan

namespace Pass

variable {settings : Settings} {recorder last : Recorder} {world after : World} {output : Text}
  {report : Report}

theorem TypeRepair.find?_fixed (repair : TypeRepair settings recorder world output report last after)
    (location : Location) :
    repair.fixed.find? location =
      Stage.applied (World.check settings world).2.disk settings.root Stage.extendedText location
        (Plan.imports repair.diagnostics)
        (Stage.applied (World.check settings world).2.disk settings.root Stage.renamedText location
          (Plan.perFile (Plan.unusedNames repair.diagnostics))
          ((World.check settings world).2.disk.find? location)) := by
  have places := (Stage.sameButTexts_of_unusedNames repair.renameRun).place?_eq
  obtain ⟨renamed, renameTrace, _⟩ := Stage.unusedNames_eq_ok_iff.1 repair.renameRun
  obtain ⟨inserted, insertTrace, _⟩ := Stage.imports_eq_ok_iff.1 repair.insertRun
  rw [Stage.find?_of_trace (Stage.insertWork_fixes settings.root) insertTrace,
    Stage.find?_of_trace (Stage.renameWork_fixes settings.root) renameTrace]
  unfold Stage.applied
  simp only [places]

theorem TypeRepair.disk_after (repair : TypeRepair settings recorder world output report last after)
    (quiet : world.Quiet) : after.disk = repair.fixed := by
  have quiet_then : World.Quiet { (World.check settings world).2 with disk := repair.fixed } :=
    @World.quiet_check world settings quiet
  have unchanged := @World.disk_check_of_quiet _ settings quiet_then
  rwa [repair.rerun] at unchanged

theorem TypeRepair.place?_fixed (repair : TypeRepair settings recorder world output report last after)
    (quiet : world.Quiet) {path : Path} : repair.fixed.place? path = world.disk.place? path := by
  rw [(Stage.sameButTexts_of_imports repair.insertRun).place?_eq,
    (Stage.sameButTexts_of_unusedNames repair.renameRun).place?_eq, World.disk_check_of_quiet quiet]

theorem TypeRepair.find?_repaired {d : Diagnostic} {location : Location} {text : Text}
    (repair : TypeRepair settings recorder world output report last after) (quiet : world.Quiet)
    (apart : Plan.NamedApart world.disk settings.root repair.diagnostics)
    (member : d ∈ repair.diagnostics)
    (leads : world.disk.place? (Stage.named settings.root d.file) = some location)
    (there : world.disk.find? location = some (.file (Utf8.encode text))) :
    repair.fixed.find? location =
      some (.file (Utf8.encode (Plan.repaired repair.diagnostics d.file text))) := by
  have only {file : Text} (named : ∃ e ∈ repair.diagnostics, e.file = file)
      (leads' : world.disk.place? (Stage.named settings.root file) = some location) :
      file = d.file := by
    obtain ⟨e, reported, rfl⟩ := named
    exact apart e reported d member location _ leads' leads there
  have finds := repair.find?_fixed location
  rw [World.disk_check_of_quiet quiet] at finds
  rw [finds, there,
    Stage.applied_of_only _ leads (fun _ planned => only (Plan.exists_of_mem_perFile planned))
      (Plan.nodup_keys_perFile _) (funext UnusedNames.text_rename_nil),
    Stage.applied_of_only _ leads (fun _ planned => only (Plan.exists_of_mem_imports planned))
      (Plan.nodup_keys_imports _) (funext ImportBlock.insert_nil),
    Option.map_some, Option.map_some, Node.mapText_file_encode, Node.mapText_file_encode,
    Plan.get_perFile, Plan.get_imports]
  rfl

theorem TypeRepair.find?_kept {location : Location}
    (repair : TypeRepair settings recorder world output report last after) (quiet : world.Quiet)
    (unnamed : ∀ d ∈ repair.diagnostics, ∀ text,
      world.disk.place? (Stage.named settings.root d.file) = some location →
      world.disk.find? location ≠ some (.file (Utf8.encode text))) :
    repair.fixed.find? location = world.disk.find? location := by
  have finds := repair.find?_fixed location
  rw [World.disk_check_of_quiet quiet] at finds
  rw [finds]
  cases readable : (world.disk.find? location).bind Node.text? with
  | none =>
      rw [Stage.applied_of_unreadable _ _ readable, Stage.applied_of_unreadable _ _ readable]
  | some text =>
      obtain ⟨node, there, read⟩ := Option.bind_eq_some_iff.1 readable
      rw [Node.text?_eq_some_iff.1 read] at there
      have elsewhere {file : Text} (named : ∃ d ∈ repair.diagnostics, d.file = file) :
          world.disk.place? (Stage.named settings.root file) ≠ some location := by
        obtain ⟨d, member, rfl⟩ := named
        exact fun leads => unnamed d member text leads there
      rw [Stage.applied_of_none, Stage.applied_of_none]
      · exact fun group planned => elsewhere (Plan.exists_of_mem_perFile planned)
      · exact fun group planned => elsewhere (Plan.exists_of_mem_imports planned)

theorem typecheck_works_file_by_file {listening : Bool} {diagnostics : List Diagnostic}
    (failing : (World.check settings world).1 = .ok (some output))
    (parsed : Diagnostic.parse output = .ok diagnostics) (quiet : world.Quiet)
    (apart : Plan.NamedApart world.disk settings.root diagnostics)
    (ended : (typecheck settings).perform listening world = (.ok (report, last), after)) :
    (∀ d ∈ diagnostics, ∀ bytes text,
      world.disk.nodeAt? (Stage.named settings.root d.file) = some (.file bytes) →
      Utf8.decode bytes = .ok text →
      after.disk.nodeAt? (Stage.named settings.root d.file) =
        some (.file (Utf8.encode (Plan.repaired diagnostics d.file text)))) ∧
    ∀ location, (∀ d ∈ diagnostics, ∀ text,
      world.disk.place? (Stage.named settings.root d.file) = some location →
      world.disk.find? location ≠ some (.file (Utf8.encode text))) →
      after.disk.find? location = world.disk.find? location := by
  obtain ⟨repair⟩ := typeRepair_of_goOn failing ended
  obtain rfl : repair.diagnostics = diagnostics := Except.ok.inj (repair.parsed.symm.trans parsed)
  rw [repair.disk_after quiet]
  refine ⟨fun d member bytes text found decoded => ?_, fun location => repair.find?_kept quiet⟩
  obtain ⟨location, leads, there⟩ := Disk.nodeAt?_eq_some_iff.1 found
  obtain rfl := Utf8.encode_of_decode decoded
  exact Disk.nodeAt?_eq_some_iff.2 ⟨location, (repair.place?_fixed quiet).trans leads,
    repair.find?_repaired quiet apart member leads there⟩

def mixedDiagnostics : List Diagnostic := [
  ⟨['a'], 1, 7, "TS6133", "'x' is declared but never used",
    "a(1,7): error TS6133: 'x' is declared but never used"⟩,
  ⟨['b'], 1, 1, "TS2304", "Cannot find name 'cn'", "b(1,1): error TS2304: Cannot find name 'cn'"⟩,
  ⟨['a'], 2, 1, "TS2304", "Cannot find name 'cn'", "a(2,1): error TS2304: Cannot find name 'cn'"⟩]

def mixedOutput : Text :=
  Text.join ['\n'] (mixedDiagnostics.map (·.wholeLine))

def mixedWorld : World where
  disk := ((Disk.empty []).put [] ⟨['a'], by decide⟩
      (.file (Utf8.encode "const x = 1;\ncn();\n".toList))).put [] ⟨['b'], by decide⟩ (.file [0xFF])
  script := [⟨.exited 2 mixedOutput [], id⟩]
  calls := []

theorem mixedWorld_returns :
    ((typecheck (.ofRoot ⟨.root, []⟩)).perform true mixedWorld).1.toOption.isSome = true := by
  decide +kernel

theorem parse_mixedOutput : Diagnostic.parse mixedOutput = .ok mixedDiagnostics :=
  Diagnostic.parse_of_toOption (by decide +kernel)

theorem typecheck_works_file_by_file_mixed :
    ∃ report last after,
      (typecheck (.ofRoot ⟨.root, []⟩)).perform true mixedWorld = (.ok (report, last), after) ∧
      after.disk.nodeAt? (Stage.named ⟨.root, []⟩ ['a']) = some (.file (Utf8.encode
        "import \x7b cn \x7d from '@/lib/utils';\nconst _x = 1;\ncn();\n".toList)) ∧
      after.disk.find? [⟨['b'], by decide⟩] = some (.file [0xFF]) := by
  obtain ⟨report, last, after, ended⟩ := exists_of_perform mixedWorld_returns
  have failing : (World.check (.ofRoot ⟨.root, []⟩) mixedWorld).1 = .ok (some mixedOutput) :=
    rfl
  have quiet : mixedWorld.Quiet := by
    rintro run member disk
    rw [List.mem_singleton.1 member]
    rfl
  have apart : ∀ d ∈ mixedDiagnostics, ∀ e ∈ mixedDiagnostics,
      mixedWorld.disk.place? (Stage.named ⟨.root, []⟩ d.file) =
        mixedWorld.disk.place? (Stage.named ⟨.root, []⟩ e.file) → d.file = e.file := by
    decide +kernel
  obtain ⟨written, kept⟩ := typecheck_works_file_by_file failing parse_mixedOutput quiet
    (fun d first e second _ _ leads leads' _ => apart d first e second (leads.trans leads'.symm)) ended
  refine ⟨report, last, after, ended, ?_, ?_⟩
  · have done := written _ (List.mem_cons_self ..) (Utf8.encode "const x = 1;\ncn();\n".toList) _
      (by decide +kernel) (Utf8.decode_encode _)
    have text : Plan.repaired mixedDiagnostics ['a'] "const x = 1;\ncn();\n".toList =
        "import \x7b cn \x7d from '@/lib/utils';\nconst _x = 1;\ncn();\n".toList := by
      decide +kernel
    exact text ▸ done
  · rw [kept]
    · decide +kernel
    · intro d _ text _ decodable
      have undecoded : (mixedWorld.disk.find? [⟨['b'], by decide⟩]).bind Node.text? = none := by
        decide +kernel
      rw [decodable, Option.bind_some, Node.text?_eq_some_iff.2 rfl] at undecoded
      cases undecoded

end Pass

end DiagnosticRepair
