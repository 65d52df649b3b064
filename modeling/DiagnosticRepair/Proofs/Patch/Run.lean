import DiagnosticRepair.Patch.Stage

namespace DiagnosticRepair

namespace DiskAction

variable {α β : Type} {action : DiskAction α} {next : α → DiskAction β} {disk other : Disk}

theorem bind_of_ok {value : α} (h : action disk = (.ok value, other)) :
    (action >>= next) disk = next value other := by
  simp only [bind, ExceptT.bind, ExceptT.mk, StateT.bind, h, ExceptT.bindCont]

theorem bind_of_error {e : AccessError} (h : action disk = (.error e, other)) :
    (action >>= next) disk = (.error e, other) := by
  simp only [bind, ExceptT.bind, ExceptT.mk, StateT.bind, h, ExceptT.bindCont]
  rfl

theorem get_run (disk : Disk) : (get : DiskAction Disk) disk = (.ok disk, disk) := rfl

theorem lift_run (answer : Except AccessError α) (disk : Disk) :
    (liftM answer : DiskAction α) disk = (answer, disk) := by
  cases answer <;> rfl

end DiskAction

namespace Stage

variable {α : Type} {work : α → DiskAction Outcome} {disk other third : Disk} {items : List α}
  {outcomes : List Outcome}

inductive Trace (work : α → DiskAction Outcome) : List α → Disk → List Outcome → Disk → Prop where
  | nil : ∀ disk : Disk, Trace work [] disk [] disk
  | cons : ∀ {item : α} {rest : List α} {disk middle other : Disk} {outcome : Outcome}
      {outcomes : List Outcome}, work item disk = (.ok outcome, middle) →
      Trace work rest middle outcomes other →
      Trace work (item :: rest) disk (outcome :: outcomes) other

theorem Trace.append {more : List α} {others : List Outcome}
    (first : Trace work items disk outcomes other) (second : Trace work more other others third) :
    Trace work (items ++ more) disk (outcomes ++ others) third := by
  induction first with
  | nil => exact second
  | cons ran _ ih => exact .cons ran (ih second)

theorem Trace.exists_of_append {more : List α} (h : Trace work (items ++ more) disk outcomes third) :
    ∃ first middle second, outcomes = first ++ second ∧ Trace work items disk first middle ∧
      Trace work more middle second third := by
  induction items generalizing disk outcomes with
  | nil => exact ⟨[], disk, outcomes, rfl, .nil disk, h⟩
  | cons item items ih =>
      cases h with
      | cons ran rest =>
          obtain ⟨first, middle, second, rfl, before, after⟩ := ih rest
          exact ⟨_ :: first, middle, second, rfl, .cons ran before, after⟩

theorem mapM_of_trace (h : Trace work items disk outcomes other) :
    items.mapM work disk = (.ok outcomes, other) := by
  induction h with
  | nil => rfl
  | cons ran _ ih =>
      rw [List.mapM_cons, DiskAction.bind_of_ok ran, DiskAction.bind_of_ok ih]
      rfl

theorem trace_of_mapM (h : items.mapM work disk = (.ok outcomes, other)) :
    Trace work items disk outcomes other := by
  induction items generalizing disk outcomes with
  | nil =>
      cases h
      exact .nil _
  | cons item items ih =>
      rw [List.mapM_cons] at h
      cases ran : work item disk with
      | mk result middle =>
          cases result with
          | error e =>
              rw [DiskAction.bind_of_error ran] at h
              cases h
          | ok outcome =>
              rw [DiskAction.bind_of_ok ran] at h
              cases rest : items.mapM work middle with
              | mk result last =>
                  cases result with
                  | error e =>
                      rw [DiskAction.bind_of_error rest] at h
                      cases h
                  | ok others =>
                      rw [DiskAction.bind_of_ok rest] at h
                      cases h
                      exact .cons ran (ih rest)

theorem each_of_trace (h : Trace work items disk outcomes other) :
    each items work disk = (.ok (.sum outcomes), other) :=
  DiskAction.bind_of_ok (mapM_of_trace h)

theorem each_eq_ok_iff {outcome : Outcome} :
    each items work disk = (.ok outcome, other) ↔
      ∃ outcomes, Trace work items disk outcomes other ∧ outcome = .sum outcomes := by
  constructor
  · intro h
    cases ran : items.mapM work disk with
    | mk result last =>
        cases result with
        | error e =>
            rw [each, DiskAction.bind_of_error ran] at h
            cases h
        | ok outcomes =>
            rw [each, DiskAction.bind_of_ok ran] at h
            cases h
            exact ⟨outcomes, trace_of_mapM ran, rfl⟩
  · rintro ⟨outcomes, trace, rfl⟩
    exact each_of_trace trace

theorem Trace.exists_of_mem {item : α} (h : Trace work items disk outcomes other)
    (member : item ∈ items) :
    ∃ before first middle outcome after, Trace work before disk first middle ∧
      (∀ early ∈ before, early ∈ items) ∧ (∀ early ∈ first, early ∈ outcomes) ∧
      work item middle = (.ok outcome, after) ∧ outcome ∈ outcomes := by
  obtain ⟨before, later, rfl⟩ := List.append_of_mem member
  obtain ⟨first, middle, second, rfl, early, late⟩ := h.exists_of_append
  cases late with
  | cons ran _ =>
      exact ⟨before, first, middle, _, _, early, fun _ => List.mem_append_left _,
        fun _ => List.mem_append_left _, ran, by simp⟩

theorem Trace.exists_of_mem_outcomes {outcome : Outcome} (h : Trace work items disk outcomes other)
    (member : outcome ∈ outcomes) :
    ∃ before first middle item after, Trace work before disk first middle ∧
      (∀ early ∈ before, early ∈ items) ∧ item ∈ items ∧
      work item middle = (.ok outcome, after) := by
  induction h with
  | nil => cases member
  | @cons item rest disk middle other first outcomes ran _ ih =>
      rcases List.mem_cons.1 member with rfl | later
      · exact ⟨[], [], disk, item, middle, .nil disk, by simp, List.mem_cons_self .., ran⟩
      · obtain ⟨before, early, there, chosen, after, trace, inside, asked, worked⟩ := ih later
        refine ⟨item :: before, first :: early, there, chosen, after, .cons ran trace, ?_,
          List.mem_cons_of_mem _ asked, worked⟩
        intro some_item met
        rcases List.mem_cons.1 met with rfl | met
        · exact List.mem_cons_self ..
        · exact List.mem_cons_of_mem _ (inside some_item met)

theorem Trace.keeps (Kept : Disk → Prop)
    (step : ∀ item ∈ items, ∀ {disk outcome other}, Kept disk →
      work item disk = (.ok outcome, other) → Kept other)
    (h : Trace work items disk outcomes other) (start : Kept disk) : Kept other := by
  induction h with
  | nil => exact start
  | cons ran _ ih =>
      exact ih (fun item member => step item (List.mem_cons_of_mem _ member))
        (step _ (List.mem_cons_self ..) start ran)

theorem exists_trace (Kept : Disk → Prop)
    (step : ∀ item ∈ items, ∀ {disk}, Kept disk →
      ∃ outcome other, work item disk = (.ok outcome, other) ∧ Kept other)
    (start : Kept disk) : ∃ outcomes other, Trace work items disk outcomes other := by
  induction items generalizing disk with
  | nil => exact ⟨[], disk, .nil disk⟩
  | cons item items ih =>
      obtain ⟨outcome, middle, ran, kept⟩ := step item (List.mem_cons_self ..) start
      obtain ⟨outcomes, other, rest⟩ :=
        ih (fun item member => step item (List.mem_cons_of_mem _ member)) kept
      exact ⟨outcome :: outcomes, other, .cons ran rest⟩

end Stage

namespace Outcome

theorem foldl_add (outcomes : List Outcome) : ∀ start : Outcome,
    (outcomes.foldl add start).entries = start.entries ++ outcomes.flatMap (·.entries) := by
  induction outcomes with
  | nil => simp
  | cons outcome rest ih =>
      intro start
      rw [List.foldl_cons, ih]
      simp [add]

theorem entries_sum (outcomes : List Outcome) :
    (sum outcomes).entries = outcomes.flatMap (·.entries) :=
  foldl_add outcomes empty

theorem mem_touched_sum {path : Path} {outcomes : List Outcome} :
    path ∈ (sum outcomes).touched ↔ ∃ outcome ∈ outcomes, path ∈ outcome.touched := by
  suffices ∀ start : Outcome, path ∈ (outcomes.foldl add start).touched ↔
      path ∈ start.touched ∨ ∃ outcome ∈ outcomes, path ∈ outcome.touched from
    (this empty).trans (or_iff_right List.not_mem_nil)
  induction outcomes with
  | nil => simp
  | cons outcome rest ih =>
      intro start
      have added : path ∈ (start.add outcome).touched ↔ path ∈ start.touched ∨ path ∈ outcome.touched :=
        mem_touched_add start outcome path
      rw [List.foldl_cons, ih, added, or_assoc]
      simp only [List.mem_cons, exists_eq_or_imp]

theorem add_empty (a : Outcome) : a.add empty = a := by
  simp [add, empty]

theorem sum_insert_empty (before after : List Outcome) :
    sum (before ++ empty :: after) = sum (before ++ after) := by
  unfold sum
  rw [List.foldl_append, List.foldl_append, List.foldl_cons, add_empty]

theorem touched_add_congr {a b c : Outcome} (h : a.touched = b.touched) :
    (a.add c).touched = (b.add c).touched := by
  simp [add, h]

theorem touched_foldl_add_congr (outcomes : List Outcome) : ∀ {a b : Outcome},
    a.touched = b.touched → (outcomes.foldl add a).touched = (outcomes.foldl add b).touched := by
  induction outcomes with
  | nil => exact fun h => h
  | cons outcome rest ih => exact fun h => ih (touched_add_congr h)

theorem touched_sum_insert (before after : List Outcome) {outcome : Outcome}
    (h : outcome.touched = []) :
    (sum (before ++ outcome :: after)).touched = (sum (before ++ after)).touched := by
  unfold sum
  rw [List.foldl_append, List.foldl_append, List.foldl_cons]
  apply touched_foldl_add_congr
  simp [add, h]

end Outcome

end DiagnosticRepair
