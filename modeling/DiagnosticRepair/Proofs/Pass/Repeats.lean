import DiagnosticRepair.Proofs.Diagnostic.Digits
import DiagnosticRepair.Proofs.Pass.FileByFile

namespace DiagnosticRepair

/-- The second list is the first with copies of its items put in, each somewhere after an item that
it is a copy of. -/
inductive Repeats {α : Type} (items : List α) : List α → Prop
  | none : Repeats items items
  | copy {before after : List α} {item : α} : Repeats items (before ++ after) → item ∈ before →
      Repeats items (before ++ item :: after)

structure Absorbs {α σ : Type} (step : σ → α → σ) (Holds : σ → α → Prop) : Prop where
  taken : ∀ state item, Holds (step state item) item
  kept : ∀ state item other, Holds state item → Holds (step state other) item
  idle : ∀ state item, Holds state item → step state item = state

namespace Absorbs

variable {α σ : Type} {items more : List α} {step : σ → α → σ} {Holds : σ → α → Prop}

theorem foldl_kept (absorbs : Absorbs step Holds) (others : List α) {state : σ} {item : α}
    (holds : Holds state item) : Holds (others.foldl step state) item := by
  induction others generalizing state with
  | nil => exact holds
  | cons other rest ih => exact ih (absorbs.kept state item other holds)

theorem foldl_taken (absorbs : Absorbs step Holds) {item : α} (h : item ∈ items) (state : σ) :
    Holds (items.foldl step state) item := by
  obtain ⟨before, after, rfl⟩ := List.append_of_mem h
  rw [List.foldl_append, List.foldl_cons]
  exact absorbs.foldl_kept after (absorbs.taken _ item)

theorem foldl_repeats (absorbs : Absorbs step Holds) (h : Repeats items more) (state : σ) :
    more.foldl step state = items.foldl step state := by
  induction h with
  | none => rfl
  | @copy before after item _ met ih =>
      rw [← ih, List.foldl_append, List.foldl_cons, List.foldl_append,
        absorbs.idle _ item (absorbs.foldl_taken met state)]

end Absorbs

namespace Grouped

variable {α : Type} [DecidableEq α] {groups : Grouped α} {key other : Text} {value added : α}

theorem mem_get_modify_appendNew : value ∈ (groups.modify (appendNew · added) other).get key ↔
    value ∈ groups.get key ∨ key = other ∧ value = added := by
  rw [get_modify]
  split
  · rename_i same
    simp [mem_appendNew, same]
  · rename_i different
    simp [different]

theorem modify_appendNew_of_mem (h : value ∈ groups.get key) :
    groups.modify (appendNew · value) key = groups := by
  induction groups with
  | nil => cases h
  | cons group rest ih =>
      obtain ⟨name, values⟩ := group
      unfold modify
      split
      · rename_i same
        have there : value ∈ values := by simpa [get, ← same] using h
        rw [appendNew, if_pos there, ← same]
      · rename_i different
        have later : value ∈ get rest key := by
          simpa [get, List.lookup_cons, beq_false_of_ne (Ne.symm different)] using h
        rw [ih later]

end Grouped

namespace Plan

variable {diagnostics more : List Diagnostic}

def Listed (names : List UnusedName) (diagnostic : Diagnostic) : Prop :=
  ∀ name, unusedName? diagnostic = some name → name ∈ names

def Planned (groups : Grouped Text) (diagnostic : Diagnostic) : Prop :=
  ∀ statement, statement? diagnostic = some statement → statement ∈ groups.get diagnostic.file

theorem unusedNames_of_repeats (h : Repeats diagnostics more) :
    unusedNames more = unusedNames diagnostics := by
  unfold unusedNames
  rw [List.foldl_filterMap, List.foldl_filterMap]
  refine Absorbs.foldl_repeats (?_ : Absorbs _ Listed) h []
  constructor
  case taken =>
    intro names diagnostic name unused
    simp only [unused]
    exact mem_appendNew.2 (.inr rfl)
  case kept =>
    intro names diagnostic other listed name unused
    have there := listed name unused
    cases unusedName? other with
    | none => exact there
    | some added => exact mem_appendNew.2 (.inl there)
  case idle =>
    intro names diagnostic listed
    cases unused : unusedName? diagnostic with
    | none => rfl
    | some name => exact if_pos (listed name unused)

theorem imports_of_repeats (h : Repeats diagnostics more) : imports more = imports diagnostics := by
  refine Absorbs.foldl_repeats (?_ : Absorbs _ Planned) h []
  constructor
  case taken =>
    intro groups diagnostic statement asked
    rw [show (Remedy.ofDiagnostic diagnostic).statement? = some statement from asked]
    exact Grouped.mem_get_modify_appendNew.2 (.inr ⟨rfl, rfl⟩)
  case kept =>
    intro groups diagnostic other planned statement asked
    have there := planned statement asked
    cases (Remedy.ofDiagnostic other).statement? with
    | none => exact there
    | some added => exact Grouped.mem_get_modify_appendNew.2 (.inl there)
  case idle =>
    intro groups diagnostic planned
    cases asked : (Remedy.ofDiagnostic diagnostic).statement? with
    | none => rfl
    | some statement => exact Grouped.modify_appendNew_of_mem (planned statement asked)

end Plan

namespace Diagnostic

variable {lines more : List Text} {diagnostics : List Diagnostic}

theorem ofLines_of_repeats (h : Repeats lines more) (read : ofLines lines = .ok diagnostics) :
    ∃ repeated, ofLines more = .ok repeated ∧ Repeats diagnostics repeated := by
  induction h with
  | none => exact ⟨diagnostics, read, .none⟩
  | @copy before after line _ met ih =>
      obtain ⟨_, both, repeated⟩ := ih
      obtain ⟨first, second, start, rest, rfl⟩ := ofLines_append_iff.1 both
      obtain ⟨found, reads⟩ := ofLines_returns_iff.1 ⟨first, start⟩ line met
      have copied : ofLines (line :: after) = .ok (found.toList ++ second) :=
        ofLines_cons_iff.2 ⟨found, second, reads, rest, rfl⟩
      refine ⟨_, ofLines_append_iff.2 ⟨first, _, start, copied, rfl⟩, ?_⟩
      cases found with
      | none => exact repeated
      | some diagnostic => exact .copy repeated ((mem_of_ofLines start).2 ⟨line, met, reads⟩)

end Diagnostic

namespace Pass

variable {settings : Settings} {world world' after after' : World}
  {recorder recorder' last last' : Recorder} {output output' : Text} {report report' : Report}

theorem TypeRepair.fixed_of_repeats
    (repair : TypeRepair settings recorder world output report last after)
    (repair' : TypeRepair settings recorder' world' output' report' last' after')
    (same : (World.check settings world').2.disk = (World.check settings world).2.disk)
    (repeated : Repeats (Text.lines output) (Text.lines output')) :
    repair'.fixed = repair.fixed := by
  obtain ⟨_, parsed, copies⟩ := Diagnostic.ofLines_of_repeats repeated repair.parsed
  obtain rfl := Except.ok.inj (repair'.parsed.symm.trans parsed)
  have renameRun := repair'.renameRun
  rw [Plan.unusedNames_of_repeats copies, same, repair.renameRun] at renameRun
  obtain ⟨_, renamed⟩ := Prod.mk.inj renameRun
  have insertRun := repair'.insertRun
  rw [Plan.imports_of_repeats copies, ← renamed, repair.insertRun] at insertRun
  exact (Prod.mk.inj insertRun).2.symm

theorem TypeRepair.returns_of_repeats
    (repair : TypeRepair settings recorder world output report last after)
    (failing' : (World.check settings world').1 = .ok (some output'))
    (same : (World.check settings world').2.disk = (World.check settings world).2.disk)
    (later : world'.script.tail = world.script.tail)
    (repeated : Repeats (Text.lines output) (Text.lines output')) (recorder' : Recorder) :
    ∃ report' last' after', goOn (typecheck settings) recorder' world' =
      (.ok (report', last'), after') := by
  -- The second run of the checker goes as before, so it leaves diagnostics that can be read.
  obtain ⟨diagnostics, parsed, copies⟩ := Diagnostic.ofLines_of_repeats repeated repair.parsed
  have parsed' : Diagnostic.parse output' = .ok diagnostics := parsed
  have checks (world : World) : World.check settings world =
      world.start ⟨settings.checkerCommand, settings.root⟩ :=
    World.call_of_none (World.error?_of_ok failing')
  have answered : (world.script.tail.head?.getD .clean).result.answer settings.checkerCommand =
      .ok report.finalOutput := by
    have rerun := repair.rerun
    simp only [checks] at rerun
    exact congrArg Prod.fst rerun
  obtain ⟨finish, rerun'⟩ : ∃ finish, World.check settings
      { (World.check settings world').2 with disk := repair.fixed } =
        (.ok report.finalOutput, finish) := by
    refine ⟨_, Prod.ext ?_ rfl⟩
    simp only [checks]
    rw [← answered, ← later]
    rfl
  rw [goOn_typecheck_of_failing (Prod.ext failing' rfl), parsed']
  simp only [goOn_bind, goOn_noteFound, goOn_fixTypes, goOn_conclude, same,
    Plan.unusedNames_of_repeats copies, Plan.imports_of_repeats copies, repair.renameRun,
    repair.insertRun, rerun', repair.left]
  exact ⟨_, _, _, rfl⟩

theorem repeats_change_nothing :
    (∀ diagnostics more : List Diagnostic, Repeats diagnostics more →
      Plan.unusedNames more = Plan.unusedNames diagnostics ∧
        Plan.imports more = Plan.imports diagnostics) ∧
    ∀ (settings : Settings) (listening listening' : Bool) (world world' after : World)
      (output output' : Text) (report : Report) (last : Recorder),
      world'.disk = world.disk → world.Quiet → world'.Quiet →
      (World.check settings world).1 = .ok (some output) →
      (World.check settings world').1 = .ok (some output') →
      Repeats (Text.lines output) (Text.lines output') →
      (typecheck settings).perform listening world = (.ok (report, last), after) →
      (∀ report' last' after',
        (typecheck settings).perform listening' world' = (.ok (report', last'), after') →
        after'.disk = after.disk) ∧
      (world'.script.tail = world.script.tail → ∃ report' last' after',
        (typecheck settings).perform listening' world' = (.ok (report', last'), after')) := by
  refine ⟨fun _ _ copies =>
    ⟨Plan.unusedNames_of_repeats copies, Plan.imports_of_repeats copies⟩, ?_⟩
  intro settings listening listening' world world' after output output' report last start quiet
    quiet' failing failing' repeated ended
  obtain ⟨repair⟩ := typeRepair_of_goOn failing ended
  have same : (World.check settings world').2.disk = (World.check settings world).2.disk := by
    rw [World.disk_check_of_quiet quiet, World.disk_check_of_quiet quiet', start]
  constructor
  · intro report' last' after' ended'
    obtain ⟨repair'⟩ := typeRepair_of_goOn failing' ended'
    calc after'.disk = repair'.fixed := repair'.disk_after quiet'
      _ = repair.fixed := repair.fixed_of_repeats repair' same repeated
      _ = after.disk := (repair.disk_after quiet).symm
  · intro later
    exact repair.returns_of_repeats failing' same later repeated (.start listening')

def view : FileName := ⟨"view.ts", by decide⟩

def unusedDiagnostic : Diagnostic :=
  ⟨"view.ts", 1, 7, "TS6133", "'x' is declared but never used",
    "view.ts(1,7): error TS6133: 'x' is declared but never used"⟩

def unusedOutput (times : Nat) : Text :=
  Text.join ['\n'] (List.replicate times unusedDiagnostic.wholeLine)

def unusedWorld (times : Nat) : World where
  disk := (Disk.empty []).put [] view (.file (Utf8.encode "const x = () => x;\n".toList))
  script := [⟨.exited 2 (unusedOutput times) [], id⟩]
  calls := []

theorem quiet_unusedWorld (times : Nat) : (unusedWorld times).Quiet :=
  World.quiet_of_script rfl

theorem repeats_change_nothing_reported_twice :
    (Plan.unusedNames [unusedDiagnostic, unusedDiagnostic] = Plan.unusedNames [unusedDiagnostic] ∧
      Plan.imports [unusedDiagnostic, unusedDiagnostic] = Plan.imports [unusedDiagnostic]) ∧
    ∃ report last after, (typecheck (.ofRoot ⟨.root, []⟩)).perform true (unusedWorld 2) =
        (.ok (report, last), after) ∧
      after.disk.find? [view] =
        some (.file (Utf8.encode "const _x = () => x;\n".toList)) := by
  have copied {α : Type} (item : α) : Repeats [item] [item, item] :=
    @Repeats.copy α [item] [item] [] item .none (List.mem_singleton_self item)
  have repeated : Repeats (Text.lines (unusedOutput 1)) (Text.lines (unusedOutput 2)) := by
    have once : Text.lines (unusedOutput 1) = [unusedDiagnostic.wholeLine] := by decide +kernel
    have twice : Text.lines (unusedOutput 2) =
        [unusedDiagnostic.wholeLine, unusedDiagnostic.wholeLine] := by decide +kernel
    rw [once, twice]
    exact copied unusedDiagnostic.wholeLine
  have ran : ∃ report last after, (typecheck (.ofRoot ⟨.root, []⟩)).perform false (unusedWorld 1) =
        (.ok (report, last), after) ∧
      decide (after.disk.find? [view] =
        some (.file (Utf8.encode "const _x = () => x;\n".toList))) = true :=
    exists_of_perform_holds (fun _ after => decide (after.disk.find? [view] =
      some (.file (Utf8.encode "const _x = () => x;\n".toList)))) (by decide +kernel)
  obtain ⟨report, last, after, ended, written⟩ := ran
  obtain ⟨sameDisk, returns⟩ := repeats_change_nothing.2 (.ofRoot ⟨.root, []⟩) false true
    (unusedWorld 1) (unusedWorld 2) after (unusedOutput 1) (unusedOutput 2) report last rfl
    (quiet_unusedWorld 1) (quiet_unusedWorld 2) rfl rfl repeated ended
  obtain ⟨report', last', after', ended'⟩ := returns rfl
  refine ⟨repeats_change_nothing.1 _ _ (copied unusedDiagnostic), report', last', after', ended',
    ?_⟩
  rw [sameDisk report' last' after' ended']
  exact of_decide_eq_true written

end Pass

end DiagnosticRepair
