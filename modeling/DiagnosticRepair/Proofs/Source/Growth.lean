import DiagnosticRepair.Proofs.Source.LineEndings
import DiagnosticRepair.Proofs.Source.TestImports

namespace DiagnosticRepair

namespace Text

variable {text old : Text}

theorem count_replaceFirst (found : occursIn old text = true) (new : Text) (c : Char) :
    (replaceFirst old new text).count c + old.count c = text.count c + new.count c := by
  induction text with
  | nil =>
      have empty : old.isEmpty = true := found
      rw [List.isEmpty_iff.1 empty]
      simp [replaceFirst]
  | cons d rest ih =>
      rw [occursIn, Bool.or_eq_true] at found
      rw [replaceFirst]
      split
      · rename_i starts
        obtain ⟨tail, split⟩ := List.isPrefixOf_iff_prefix.1 starts
        rw [← split, List.drop_left, List.count_append, List.count_append]
        omega
      · rename_i not_here
        have later := ih (found.resolve_left not_here)
        rw [List.count_cons, List.count_cons]
        omega

def isMark (c : Char) : Bool :=
  !isBlank c && c != ','

def OnlyMarks (p : Char → Bool) : Prop :=
  ∀ c, isMark c = false → p c = false

variable {p : Char → Bool}

theorem OnlyMarks.blank (h : OnlyMarks p) {c : Char} (blank : isBlank c = true) : p c = false :=
  h c (by simp [isMark, blank])

theorem OnlyMarks.countP_ending (h : OnlyMarks p) (ending : LineEnding) :
    ending.text.countP p = 0 := by
  have return_blank : p '\r' = false := h.blank (by decide)
  have feed_blank : p '\n' = false := h.blank (by decide)
  cases ending <;> simp [LineEnding.text, return_blank, feed_blank]

theorem countP_dropEndWhile {q : Char → Bool} (light : ∀ c, q c = true → p c = false) (text : Text) :
    (dropEndWhile q text).countP p = text.countP p := by
  obtain ⟨tail, all, split⟩ := exists_dropEndWhile q text
  have none_counts : tail.countP p = 0 := by
    rw [List.countP_eq_zero]
    intro c member
    simp [light c (List.all_eq_true.1 all c member)]
  conv => rhs; rw [split]
  rw [List.countP_append, none_counts, Nat.add_zero]

theorem countP_trim (h : OnlyMarks p) (text : Text) : (trim text).countP p = text.countP p := by
  obtain ⟨blanks, blank, split⟩ := exists_trimStart text
  have none_counts : blanks.countP p = 0 := by
    rw [List.countP_eq_zero]
    intro c member
    simp [h.blank (List.all_eq_true.1 blank c member)]
  conv => rhs; rw [split]
  rw [trim, trimEnd, countP_dropEndWhile fun _ => h.blank, List.countP_append, none_counts, Nat.zero_add]

end Text

def Text.Longer (old new : Text) : Prop :=
  old.length < new.length

theorem Text.Longer.trans (first second third : Text) :
    Longer first second → Longer second third → Longer first third :=
  Nat.lt_trans

theorem Text.Longer.irrefl (text : Text) : ¬ Longer text text :=
  Nat.lt_irrefl text.length

namespace UnusedNames

variable {text : Text} {names : List UnusedName}

theorem lines_step_cases (state : Renaming) (unused : UnusedName) :
    (state.step unused).lines = state.lines ∨
      state.renamed.length < (state.step unused).renamed.length := by
  unfold Renaming.step
  cases renameOn? state.lines unused with
  | none => exact .inl rfl
  | some lines => exact .inr (by simp)

theorem lines_rename_cases (text : Text) (names : List UnusedName) :
    (rename text names).lines = LineEnding.lf.split text ∨ 0 < (rename text names).renamed.length := by
  suffices ∀ (rest : List UnusedName) (state : Renaming),
      state.lines = LineEnding.lf.split text ∨ 0 < state.renamed.length →
      (rest.foldl Renaming.step state).lines = LineEnding.lf.split text ∨
        0 < (rest.foldl Renaming.step state).renamed.length from
    this names ⟨LineEnding.lf.split text, [], []⟩ (.inl rfl)
  intro rest
  induction rest with
  | nil => exact fun _ start => start
  | cons unused rest ih =>
      intro state start
      refine ih _ ?_
      have kept : state.renamed.length ≤ (state.step unused).renamed.length := by
        unfold Renaming.step
        cases renameOn? state.lines unused <;> simp
      rcases start with same | some_renamed
      · rcases lines_step_cases state unused with kept_lines | more
        · exact .inl (kept_lines.trans same)
        · exact .inr (by omega)
      · exact .inr (by omega)

theorem longer_of_rename_ne (h : (rename text names).text ≠ text) :
    text.Longer (rename text names).text := by
  rcases lines_rename_cases text names with same | renamed
  · exact absurd ((congrArg LineEnding.lf.join same).trans (LineEnding.lf.join_split text)) h
  · obtain ⟨many, size⟩ := rename_grows text names
    have lengths := Text.length_join LineEnding.lf.text (rename text names).lines
    have lengths' := Text.length_join LineEnding.lf.text (LineEnding.lf.split text)
    have whole : Text.join LineEnding.lf.text (LineEnding.lf.split text) = text :=
      LineEnding.lf.join_split text
    rw [whole] at lengths'
    rw [many] at lengths
    show text.length < (Text.join LineEnding.lf.text (rename text names).lines).length
    omega

end UnusedNames

namespace ImportBlock

variable {text : Text} {wanted : List Text}

theorem longer_extended {inserted : List Text} (some_inserted : inserted ≠ []) (text : Text) :
    text.Longer (extended text inserted) := by
  have whole := (LineEnding.ofText text).join_split text
  have some_line := List.length_pos_iff.2 ((LineEnding.ofText text).split_ne_nil text)
  have some_end := List.length_pos_iff.2 (LineEnding.ofText text).text_ne_nil
  have more := List.length_pos_iff.2 some_inserted
  unfold Text.Longer extended
  generalize LineEnding.ofText text = ending at *
  simp only
  generalize ending.split text = lines at *
  generalize endIndex lines = index
  have lengths := Text.length_join ending.text lines
  have lengths' := Text.length_join ending.text (lines.take index ++ inserted ++ lines.drop index)
  have cut := congrArg List.length (congrArg List.flatten (List.take_append_drop index lines))
  have many := congrArg List.length (List.take_append_drop index lines)
  simp only [List.flatten_append, List.length_append] at lengths' cut many
  unfold LineEnding.join at *
  rw [whole] at lengths
  have more_ends : ending.text.length * (lines.length - 1) < ending.text.length *
      ((lines.take index).length + inserted.length + (lines.drop index).length - 1) :=
    Nat.mul_lt_mul_of_pos_left (by omega) some_end
  omega

theorem longer_of_insert_ne (h : (insert text wanted).1 ≠ text) :
    text.Longer (insert text wanted).1 := by
  rw [insert_eq]
  exact longer_extended (fun none => h (insert_of_none text wanted none)) text

end ImportBlock

/-- A text has gained dots, or has as many and has gained other marks. -/
def Text.Richer (old new : Text) : Prop :=
  old.count '.' < new.count '.' ∨ old.count '.' = new.count '.' ∧
    old.countP isMark < new.countP isMark

theorem Text.Richer.trans (first second third : Text) (h : Richer first second)
    (h' : Richer second third) : Richer first third := by
  unfold Richer at *
  omega

theorem Text.Richer.irrefl (text : Text) : ¬ Richer text text := by
  unfold Richer
  omega

namespace Alias

variable {relative : Text → Text} {table : List (Text × Text)}

theorem count_step {entry : Text × Text} (dotless : '.' ∉ entry.1) (dotted : '.' ∈ relative entry.2)
    (state : Resolution) : (state.step relative entry).line = state.line ∨
      state.line.count '.' < (state.step relative entry).line.count '.' := by
  unfold Resolution.step
  split
  · rename_i found
    have counts := Text.count_replaceFirst found (relative entry.2) '.'
    have none_before : entry.1.count '.' = 0 := List.count_eq_zero.2 dotless
    have some_after : 0 < (relative entry.2).count '.' := List.count_pos_iff.2 dotted
    exact .inr (by simp only; omega)
  · exact .inl rfl

theorem count_resolveLine (dotless : ∀ entry ∈ table, '.' ∉ entry.1)
    (dotted : ∀ entry ∈ table, '.' ∈ relative entry.2) (line : Text) :
    (resolveLine relative table line).line = line ∨
      line.count '.' < (resolveLine relative table line).line.count '.' := by
  unfold resolveLine
  split
  · suffices ∀ state : Resolution, (table.foldl (Resolution.step relative) state).line = state.line ∨
        state.line.count '.' < (table.foldl (Resolution.step relative) state).line.count '.' from
      this ⟨line, []⟩
    induction table with
    | nil => exact fun _ => .inl rfl
    | cons entry rest ih =>
        intro state
        have later := ih (fun other member => dotless other (List.mem_cons_of_mem _ member))
          (fun other member => dotted other (List.mem_cons_of_mem _ member))
          (state.step relative entry)
        rw [List.foldl_cons]
        rcases count_step (dotless entry (List.mem_cons_self ..))
          (dotted entry (List.mem_cons_self ..)) state with same | more
        · rwa [same] at later
        · rcases later with same | more'
          · exact .inr (same ▸ more)
          · exact .inr (by omega)
  · exact .inl rfl

theorem count_join_map {f : Text → Text} (h : ∀ line, f line = line ∨ line.count '.' < (f line).count '.')
    (separator : Text) : ∀ lines : List Text,
    Text.join separator (lines.map f) = Text.join separator lines ∨
      (Text.join separator lines).count '.' < (Text.join separator (lines.map f)).count '.'
  | [] => .inl rfl
  | [line] => by
      rw [List.map_singleton, Text.join_singleton, Text.join_singleton]
      exact h line
  | line :: next :: rest => by
      have later := count_join_map h separator (next :: rest)
      rw [List.map_cons] at later
      rw [List.map_cons, List.map_cons, Text.join_cons_cons, Text.join_cons_cons]
      rcases h line with same | more
      · rcases later with same' | more'
        · exact .inl (by rw [same, same'])
        · right
          rw [same]
          simp only [List.count_append]
          omega
      · right
        have behind : (Text.join separator (next :: rest)).count '.' ≤
            (Text.join separator (f next :: rest.map f)).count '.' := by
          rcases later with same' | more'
          · exact Nat.le_of_eq (congrArg _ same'.symm)
          · omega
        simp only [List.count_append]
        omega

theorem dot_mem_relativeTarget (here : Location) (testFile target root : Path) :
    '.' ∈ relativeTarget here testFile target root := by
  unfold relativeTarget
  simp only
  split
  · rename_i starts
    exact List.mem_of_head? starts
  · exact List.mem_cons_self ..

theorem richer_of_resolve_ne {here : Location} {text : Text} {testFile root : Path}
    (h : (resolve here text testFile root Conventions.aliases).1 ≠ text) :
    Text.Richer text (resolve here text testFile root Conventions.aliases).1 := by
  have dotless : ∀ entry ∈ Conventions.aliases, '.' ∉ entry.1 := by decide +kernel
  unfold resolve at h ⊢
  simp only [List.map_map] at h ⊢
  have lines := count_join_map (f := fun line => (resolveLine
    (fun target => relativeTarget here testFile (Path.ofText target) root) Conventions.aliases
    line).line) (count_resolveLine dotless fun entry _ => dot_mem_relativeTarget ..)
    LineEnding.lf.text (LineEnding.lf.split text)
  have whole : Text.join LineEnding.lf.text (LineEnding.lf.split text) = text :=
    LineEnding.lf.join_split text
  rw [whole] at lines
  exact .inl (lines.resolve_left h)

end Alias

namespace LibraryImport

open Text

variable {p : Char → Bool} {text symbol usage mended : Text}

theorem countP_keptNames (h : OnlyMarks p) (names : Text) :
    (keptNames names).countP p = names.countP p := by
  have commas : ∀ c, (c == ',') = true → p c = false := by
    intro c comma
    rw [beq_iff_eq.1 comma]
    exact h ',' (by decide)
  rw [keptNames, countP_trim h, countP_dropEndWhile commas, countP_trim h]

theorem countP_widen (h : OnlyMarks p) (found : LibraryImport) (symbol : Text) :
    (found.widen symbol).text.countP p = found.text.countP p + symbol.countP p := by
  have blank : p ' ' = false := h.blank (by decide)
  have comma : p ',' = false := h ',' (by decide)
  have names : (found.widen symbol).names.countP p = found.names.countP p + symbol.countP p := by
    rw [← countP_keptNames h found.names]
    unfold widen
    rw [widenNames_eq]
    split
    · rename_i empty
      rw [List.isEmpty_iff.1 empty]
      simp [blank]
    · simp [blank, comma]
  unfold LibraryImport.text
  simp only [List.countP_append, names]
  simp only [widen]
  omega

theorem countP_addIfUsed (h : OnlyMarks p) (added : addIfUsed symbol usage text = some mended) :
    mended.countP p = text.countP p + symbol.countP p := by
  unfold addIfUsed at added
  cases first : find? text with
  | none => simp [first] at added
  | some found =>
      simp only [first, Option.bind_eq_bind, Option.bind_some] at added
      split at added
      · cases added
      · cases added
        rw [countP_widen h, ← (find?_eq_some_iff.1 first).1.cut]

end LibraryImport

namespace TestImports

open Text

variable {p : Char → Bool} {text mended : Text}

theorem countP_insertLine (h : OnlyMarks p) (text statement : Text) (index : List Text → Nat) :
    (insertLine text statement index).countP p = text.countP p + statement.countP p := by
  have ending := h.countP_ending (LineEnding.ofText text)
  rcases insertLine_cases text statement index with ⟨whole, inserted⟩ | ⟨_, _, inserted⟩
  · have lengths := congrArg (List.countP p) whole
    rw [inserted]
    simp only [List.countP_append] at lengths ⊢
    omega
  · rw [inserted]
    simp only [List.countP_append]
    omega

theorem richer_of_mend {check : Check} (member : check ∈ checks)
    (found : check.mend text = some mended) : Richer text mended := by
  have some_added : ∃ added : Text, 0 < added.countP isMark ∧
      ∀ p, OnlyMarks p → mended.countP p = text.countP p + added.countP p := by
    simp only [checks, List.mem_cons, List.not_mem_nil, or_false] at member
    rcases member with rfl | rfl | rfl | rfl
    · exact ⟨"screen".toList, by decide, fun p h => LibraryImport.countP_addIfUsed h found⟩
    · exact ⟨"render".toList, by decide, fun p h => LibraryImport.countP_addIfUsed h found⟩
    · refine ⟨Conventions.reactImport, by decide, fun p h => ?_⟩
      rw [eq_of_addReact found]
      exact countP_insertLine h ..
    · refine ⟨Conventions.matcherImport, by decide, fun p h => ?_⟩
      rw [eq_of_addMatchers found]
      exact countP_insertLine h ..
  obtain ⟨added, some_mark, counts⟩ := some_added
  have dots_are_marks : OnlyMarks (· == '.') := by
    intro c light
    rw [beq_eq_false_iff_ne]
    rintro rfl
    revert light
    decide
  have dots := counts _ dots_are_marks
  have marks := counts isMark fun _ => id
  unfold Richer List.count
  omega

theorem richer_of_fix_ne (h : (fix text).1 ≠ text) : Richer text (fix text).1 := by
  suffices ∀ (rest : List Check) (state : Text × List Text), (∀ check ∈ rest, check ∈ checks) →
      (rest.foldl Check.step state).1 = state.1 ∨
        Richer state.1 (rest.foldl Check.step state).1 from
    (this checks (text, []) fun _ => id).resolve_left h
  intro rest
  induction rest with
  | nil => exact fun _ _ => .inl rfl
  | cons check rest ih =>
      intro state known
      have later := ih (Check.step state check) fun other member =>
        known other (List.mem_cons_of_mem _ member)
      rw [List.foldl_cons]
      rw [step_fst] at later
      cases found : check.mend state.1 with
      | none =>
          rw [found] at later
          exact later
      | some mended =>
          rw [found, Option.getD_some] at later
          have richer := richer_of_mend (known check (List.mem_cons_self ..)) found
          exact .inr (later.elim (fun same => same ▸ richer) (.trans _ _ _ richer))

end TestImports

end DiagnosticRepair
