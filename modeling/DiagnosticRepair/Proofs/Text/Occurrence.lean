import DiagnosticRepair.Text.Lines

namespace DiagnosticRepair.Text

variable {needle separator first second : Text}

theorem occursIn_iff_infix {text : Text} : occursIn needle text = true ↔ needle <:+: text := by
  induction text with
  | nil => simp [occursIn]
  | cons c rest ih =>
      rw [occursIn, Bool.or_eq_true, List.isPrefixOf_iff_prefix, ih, List.infix_cons_iff]

theorem isPrefixOf_append_of_not_mem {start : Text} {c : Char} (h : c ∉ start) (line rest : Text) :
    start.isPrefixOf (line ++ c :: rest) = start.isPrefixOf line := by
  induction start generalizing line with
  | nil => simp
  | cons s more ih =>
      rw [List.mem_cons, not_or] at h
      cases line with
      | nil =>
          rw [List.nil_append, List.isPrefixOf_cons_cons, beq_false_of_ne (Ne.symm h.1),
            Bool.false_and]
          rfl
      | cons d line =>
          rw [List.cons_append, List.isPrefixOf_cons_cons, List.isPrefixOf_cons_cons, ih h.2]

theorem infix_eq_nil (apart : ∀ c ∈ needle, c ∉ separator) (h : needle <:+: separator) :
    needle = [] := by
  cases needle with
  | nil => rfl
  | cons c rest => exact absurd (h.subset (List.mem_cons_self ..)) (apart c (List.mem_cons_self ..))

theorem infix_separator_append_iff (apart : ∀ c ∈ needle, c ∉ separator) :
    needle <:+: separator ++ second ↔ needle <:+: second := by
  constructor
  · intro h
    rcases List.infix_append_iff_ne_nil.1 h with within | within | ⟨l₁, l₂, some₁, _, rfl, ends, _⟩
    · rw [infix_eq_nil apart within]
      exact List.nil_infix
    · exact within
    · have overlap : l₁ = [] :=
        infix_eq_nil (fun c member => apart c (List.mem_append_left _ member)) ends.isInfix
      exact absurd overlap some₁
  · exact List.infix_append_of_infix_right

theorem infix_append_separator_iff (apart : ∀ c ∈ needle, c ∉ separator) (h : separator ≠ []) :
    needle <:+: first ++ separator ++ second ↔ needle <:+: first ∨ needle <:+: second := by
  rw [List.append_assoc]
  constructor
  · intro found
    rcases List.infix_append_iff_ne_nil.1 found with
      within | within | ⟨l₁, l₂, _, some₂, rfl, _, starts⟩
    · exact .inl within
    · exact .inr ((infix_separator_append_iff apart).1 within)
    · cases l₂ with
      | nil => exact absurd rfl some₂
      | cons c rest =>
          cases separator with
          | nil => exact absurd rfl h
          | cons s more =>
              have same : c = s := (List.cons_prefix_cons.1 starts).1
              exact absurd (same ▸ List.mem_cons_self ..) (apart c (by simp))
  · rintro (within | within)
    · exact List.infix_append_of_infix_left within
    · exact List.infix_append_of_infix_right ((infix_separator_append_iff apart).2 within)

theorem infix_join_iff (apart : ∀ c ∈ needle, c ∉ separator) (h : separator ≠ [])
    (some_needle : needle ≠ []) :
    ∀ pieces : List Text, needle <:+: join separator pieces ↔ ∃ piece ∈ pieces, needle <:+: piece
  | [] => by
      have empty : join separator [] = [] := rfl
      rw [empty, List.infix_nil]
      simpa using some_needle
  | [piece] => by rw [join_singleton]; simp
  | piece :: next :: rest => by
      rw [join_cons_cons, infix_append_separator_iff apart h,
        infix_join_iff apart h some_needle (next :: rest)]
      simp

theorem length_join (separator : Text) : ∀ pieces : List Text,
    (join separator pieces).length =
      pieces.flatten.length + separator.length * (pieces.length - 1)
  | [] => rfl
  | [piece] => by simp [join_singleton]
  | piece :: next :: rest => by
      rw [join_cons_cons, List.length_append, List.length_append,
        length_join separator (next :: rest)]
      simp only [List.flatten_cons, List.length_append, List.length_cons, Nat.add_sub_cancel,
        Nat.mul_succ]
      omega

def OneLine (text : Text) : Prop :=
  ∀ c ∈ text, c ≠ '\r' ∧ c ≠ '\n'

instance : DecidablePred OneLine :=
  fun text => List.decidableBAll _ text

theorem OneLine.apart (h : OneLine needle) (ending : LineEnding) :
    ∀ c ∈ needle, c ∉ ending.text := by
  intro c member
  obtain ⟨notReturn, notFeed⟩ := h c member
  cases ending <;> simp [LineEnding.text, notReturn, notFeed]

theorem OneLine.whole (h : OneLine needle) (ending : LineEnding) : ¬ ending.text <:+: needle :=
  fun found => ending.text_ne_nil
    (infix_eq_nil (fun c inside shared => h.apart ending c shared inside) found)

theorem infix_join_lines_iff (h : OneLine needle) (some_needle : needle ≠ [])
    (ending : LineEnding) (lines : List Text) :
    needle <:+: ending.join lines ↔ ∃ line ∈ lines, needle <:+: line :=
  infix_join_iff (h.apart ending) ending.text_ne_nil some_needle lines

end DiagnosticRepair.Text
