import DiagnosticRepair.Proofs.Text.Endings

namespace DiagnosticRepair

namespace Text

variable {separator piece : Text}

theorem prefix_of_splitOn {text : Text} {rest : List Text} (some_separator : separator ≠ [])
    (h : splitOn separator text = piece :: rest) : piece <+: text := by
  have whole := join_splitOn separator text some_separator
  rw [h] at whole
  cases rest with
  | nil => exact ⟨[], by rw [← whole, join_singleton, List.append_nil]⟩
  | cons next rest => exact ⟨_, by rw [← whole, join_cons_cons, List.append_assoc]⟩

theorem not_infix_of_mem_splitOn (some_separator : separator ≠ []) {text : Text}
    (h : piece ∈ splitOn separator text) : ¬ separator <:+: piece := by
  -- A separator inside a piece would have been met before.
  have none_empty : ¬ separator <:+: [] := fun found => some_separator (List.infix_nil.1 found)
  induction text using pieces_induction some_separator generalizing piece with
  | nil => exact List.mem_singleton.1 h ▸ none_empty
  | met tail ih =>
      rw [splitOn_separator_append some_separator] at h
      rcases List.mem_cons.1 h with rfl | later
      · exact none_empty
      · exact ih later
  | passed c rest found ih =>
      rw [splitOn_cons_of_not_start found] at h
      cases pieces : splitOn separator rest with
      | nil => exact absurd pieces (splitOn_ne_nil _ _)
      | cons first others =>
          rw [pieces, List.modifyHead_cons] at h
          rw [pieces] at ih
          rcases List.mem_cons.1 h with rfl | later
          · rw [List.infix_cons_iff, not_or]
            refine ⟨fun starts => ?_, ih (List.mem_cons_self ..)⟩
            have ahead := prefix_of_splitOn some_separator pieces
            have starts' := starts.trans (List.cons_prefix_cons.2 ⟨rfl, ahead⟩)
            rw [List.isPrefixOf_iff_prefix.2 starts'] at found
            cases found
          · exact ih (List.mem_cons_of_mem _ later)

end Text

namespace LineEnding

variable {ending : LineEnding} {line : Text} {lines : List Text}

theorem isPrefixOf_line_append {c : Char} (h : ¬ ending.text <:+: c :: line) (rest : Text) :
    ending.text.isPrefixOf (c :: (line ++ (ending.text ++ rest))) = false := by
  rw [Bool.eq_false_iff, ne_eq, List.isPrefixOf_iff_prefix]
  intro starts
  cases ending with
  | lf =>
      obtain ⟨rfl, _⟩ := List.cons_prefix_cons.1 starts
      exact h ⟨[], line, rfl⟩
  | crlf =>
      obtain ⟨rfl, feeds⟩ := List.cons_prefix_cons.1 starts
      cases line with
      | nil => exact absurd (List.cons_prefix_cons.1 feeds).1 (by decide)
      | cons d line =>
          obtain ⟨rfl, _⟩ := List.cons_prefix_cons.1 feeds
          exact h ⟨[], line, rfl⟩

theorem split_line_append (h : ¬ ending.text <:+: line) (rest : Text) :
    ending.split (line ++ (ending.text ++ rest)) = line :: ending.split rest := by
  induction line with
  | nil => exact Text.splitOn_separator_append ending.text_ne_nil rest
  | cons c line ih =>
      have later := ih fun found => h (List.infix_cons found)
      have apart := isPrefixOf_line_append h rest
      unfold split at later ⊢
      rw [List.cons_append, Text.splitOn_cons_of_not_start apart, later]
      rfl

theorem split_of_line (h : ¬ ending.text <:+: line) : ending.split line = [line] := by
  induction line with
  | nil => rfl
  | cons c line ih =>
      have later := ih fun found => h (List.infix_cons found)
      have apart : ending.text.isPrefixOf (c :: line) = false := by
        rw [Bool.eq_false_iff, ne_eq, List.isPrefixOf_iff_prefix]
        exact fun starts => h starts.isInfix
      unfold split at later ⊢
      rw [Text.splitOn_cons_of_not_start apart, later]
      rfl

theorem split_join (some_lines : lines ≠ []) (h : ∀ line ∈ lines, ¬ ending.text <:+: line) :
    ending.split (ending.join lines) = lines := by
  induction lines with
  | nil => exact absurd rfl some_lines
  | cons line lines ih =>
      obtain ⟨here, later⟩ := List.forall_mem_cons.1 h
      cases lines with
      | nil =>
          have alone : ending.join [line] = line := Text.join_singleton ..
          rw [alone, split_of_line here]
      | cons next rest =>
          have joined : ending.join (line :: next :: rest) =
              line ++ (ending.text ++ ending.join (next :: rest)) := by
            rw [← List.append_assoc]
            exact Text.join_cons_cons ..
          rw [joined, split_line_append here, ih (by simp) later]

end LineEnding

end DiagnosticRepair
