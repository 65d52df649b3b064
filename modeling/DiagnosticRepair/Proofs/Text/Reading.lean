import DiagnosticRepair.Text.Blank
import DiagnosticRepair.Text.Reading

namespace DiagnosticRepair.Text

theorem trimStart_append {blanks : Text} {c : Char} (h : allBlank blanks = true)
    (h' : isBlank c = false) (rest : Text) : trimStart (blanks ++ c :: rest) = c :: rest := by
  unfold allBlank at h
  unfold trimStart
  rw [List.dropWhile_append_of_pos (List.all_eq_true.1 h), List.dropWhile_cons, h']
  rfl

theorem exists_trimStart (text : Text) :
    ∃ blanks, allBlank blanks = true ∧ text = blanks ++ trimStart text := by
  refine ⟨text.takeWhile isBlank, ?_, List.takeWhile_append_dropWhile.symm⟩
  unfold allBlank
  exact List.all_takeWhile

variable {p : Char → Bool} {run rest : Text}

theorem dropEndWhile_isPrefix (p : Char → Bool) (text : Text) : dropEndWhile p text <+: text := by
  induction text with
  | nil => exact List.prefix_rfl
  | cons c rest ih =>
      rw [dropEndWhile]
      split
      · split
        · exact List.nil_prefix
        · exact List.prefix_cons_iff.2 (.inr ⟨[], rfl, List.nil_prefix⟩)
      · exact List.prefix_cons_iff.2 (.inr ⟨_, rfl, ih⟩)

theorem trim_isInfix (text : Text) : trim text <:+: text :=
  (dropEndWhile_isPrefix isBlank _).isInfix.trans (List.dropWhile_suffix isBlank).isInfix

theorem run?_append (some_run : run ≠ []) (all : ∀ c ∈ run, p c = true)
    (ends : rest.head?.any p = false) : run? p (run ++ rest) = some (run, rest) := by
  have stops : rest.takeWhile p = [] ∧ rest.dropWhile p = rest := by
    cases rest with
    | nil => exact ⟨rfl, rfl⟩
    | cons c rest =>
        have apart : p c = false := ends
        simp [apart]
  unfold run?
  simp only [List.takeWhile_append_of_pos all, List.dropWhile_append_of_pos all, stops.1, stops.2,
    List.append_nil]
  rw [if_neg (by simpa using some_run)]

theorem eq_of_run? {text : Text} (h : run? p text = some (run, rest)) :
    run ≠ [] ∧ run.all p = true ∧ rest.head?.any p = false ∧ text = run ++ rest := by
  unfold run? at h
  simp only at h
  split at h
  · cases h
  · rename_i some_run
    obtain ⟨rfl, rfl⟩ := Prod.mk.inj (Option.some.inj h)
    refine ⟨by simpa using some_run, List.all_takeWhile, ?_, List.takeWhile_append_dropWhile.symm⟩
    have := List.head?_dropWhile_not p text
    cases head : (text.dropWhile p).head? with
    | none => rfl
    | some c => simpa [head] using this

theorem run?_eq_some_iff {text : Text} : run? p text = some (run, rest) ↔
    run ≠ [] ∧ (∀ c ∈ run, p c = true) ∧ rest.head?.any p = false ∧ text = run ++ rest := by
  constructor
  · intro h
    obtain ⟨some_run, all, ends, split⟩ := eq_of_run? h
    exact ⟨some_run, List.all_eq_true.1 all, ends, split⟩
  · rintro ⟨some_run, all, ends, rfl⟩
    exact run?_append some_run all ends

theorem after?_eq_some_iff {start text : Text} :
    after? start text = some rest ↔ text = start ++ rest := by
  constructor
  · exact eq_append_of_after?
  · rintro rfl
    exact after?_append start rest

theorem dropEndWhile_of_last {p : Char → Bool} {c : Char} (h : p c = false) (text : Text) :
    dropEndWhile p (text ++ [c]) = text ++ [c] := by
  induction text with
  | nil => simp [dropEndWhile, h]
  | cons d rest ih =>
      rw [List.cons_append, dropEndWhile, ih]
      cases rest <;> rfl

theorem trim_of_ends {c d : Char} {rest rest' : Text} (same : c :: rest = rest' ++ [d])
    (h : isBlank c = false) (h' : isBlank d = false) :
    trim (c :: rest) = c :: rest := by
  unfold trim trimStart trimEnd
  rw [List.dropWhile_cons, h, if_neg Bool.false_ne_true, same, dropEndWhile_of_last h']

end DiagnosticRepair.Text
