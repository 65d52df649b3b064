import DiagnosticRepair.Path.Basic

namespace DiagnosticRepair

namespace Text

variable {separator : Char} {piece rest : Text}

theorem splitOn_cons_separator (separator : Char) (rest : Text) :
    splitOn [separator] (separator :: rest) = [] :: splitOn [separator] rest := by
  simp [splitOn, splitFrom]

theorem splitOn_append (apart : separator ∉ piece) (rest : Text) :
    splitOn [separator] (piece ++ rest) = (splitOn [separator] rest).modifyHead (piece ++ ·) := by
  induction piece with
  | nil =>
      rw [List.nil_append]
      cases splitOn [separator] rest <;> rfl
  | cons c more ih =>
      rw [List.mem_cons, not_or] at apart
      have step : splitOn [separator] (c :: (more ++ rest)) =
          (splitOn [separator] (more ++ rest)).modifyHead (c :: ·) := by
        simp [splitOn, splitFrom, apart.1]
      rw [List.cons_append, step, ih apart.2, List.modifyHead_modifyHead]
      rfl

theorem splitOn_join (separator : Char) : ∀ pieces : List Text, pieces ≠ [] →
    (∀ piece ∈ pieces, separator ∉ piece) → splitOn [separator] (join [separator] pieces) = pieces
  | [], some_piece, _ => absurd rfl some_piece
  | [piece], _, apart => by
      have alone := splitOn_append (apart piece (List.mem_cons_self ..)) []
      rw [List.append_nil] at alone
      rw [join_singleton, alone]
      simp [splitOn, splitFrom]
  | piece :: next :: rest, _, apart => by
      have others := splitOn_join separator (next :: rest) (by simp)
        fun other member => apart other (List.mem_cons_of_mem _ member)
      rw [join_cons_cons, List.append_assoc, List.singleton_append,
        splitOn_append (apart piece (List.mem_cons_self ..)), splitOn_cons_separator, others]
      simp

end Text

namespace Step

theorem text_noSlash (step : Step) : '/' ∉ step.text := by
  cases step with
  | up => simp [text]
  | down name => exact name.valid.2.2.2

theorem text_ne_nil (step : Step) : step.text ≠ [] := by
  cases step with
  | up => simp [text]
  | down name => exact name.valid.1

end Step

namespace Path

def stepsText (steps : List Step) : Text :=
  Text.join ['/'] (steps.map Step.text)

theorem stepsText_cases (steps : List Step) :
    (steps = [] ∧ stepsText steps = []) ∨ ∃ c rest, stepsText steps = c :: rest ∧ c ≠ '/' := by
  cases steps with
  | nil => exact .inl ⟨rfl, rfl⟩
  | cons step rest =>
      right
      cases first : step.text with
      | nil => exact absurd first step.text_ne_nil
      | cons c more =>
          have apart : c ≠ '/' := by
            rintro rfl
            exact step.text_noSlash (first ▸ List.mem_cons_self ..)
          cases rest with
          | nil => exact ⟨c, more, by simp [stepsText, Text.join_singleton, first], apart⟩
          | cons next others =>
              refine ⟨c, more ++ ['/'] ++ stepsText (next :: others), ?_, apart⟩
              rw [stepsText, List.map_cons, List.map_cons, Text.join_cons_cons, first]
              rfl

theorem filterMap_splitOn_stepsText (steps : List Step) :
    (Text.splitOn ['/'] (stepsText steps)).filterMap Step.ofText? = steps := by
  cases steps with
  | nil => rfl
  | cons step rest =>
      rw [stepsText, Text.splitOn_join '/' _ (by simp), List.filterMap_map]
      · have back : Step.ofText? ∘ Step.text = some := funext Step.ofText?_text
        rw [back, List.filterMap_some]
      · intro piece member
        obtain ⟨step, _, rfl⟩ := List.mem_map.1 member
        exact step.text_noSlash

theorem filterMap_splitOn_slash (rest : Text) :
    (Text.splitOn ['/'] ('/' :: rest)).filterMap Step.ofText? =
      (Text.splitOn ['/'] rest).filterMap Step.ofText? := by
  rw [Text.splitOn_cons_separator]
  rfl

theorem ofText_text (path : Path) : ofText path.text = path := by
  obtain ⟨anchor, steps⟩ := path
  have back := filterMap_splitOn_stepsText steps
  have shown : text ⟨anchor, steps⟩ = anchor.text ++ stepsText steps ∨
      anchor = .here ∧ steps = [] := by
    cases anchor <;> cases steps <;> simp [text, stepsText]
  rcases shown with shown | ⟨rfl, rfl⟩
  · unfold ofText
    rw [shown]
    cases anchor with
    | here =>
        rcases stepsText_cases steps with ⟨rfl, _⟩ | ⟨c, rest, starts, apart⟩
        · rfl
        · have anchored : readAnchor (stepsText steps) = .here := by
            rw [starts]
            unfold readAnchor
            split <;> simp_all
          rw [Anchor.text, List.nil_append, anchored, back]
    | root =>
        rw [Anchor.text, List.singleton_append, filterMap_splitOn_slash, back]
        rcases stepsText_cases steps with ⟨rfl, empty⟩ | ⟨c, rest, starts, apart⟩
        · rw [empty]
          rfl
        · rw [starts]
          unfold readAnchor
          split <;> simp_all
    | doubleRoot =>
        have slashes : Anchor.doubleRoot.text ++ stepsText steps = '/' :: '/' :: stepsText steps := rfl
        rw [slashes, filterMap_splitOn_slash, filterMap_splitOn_slash, back]
        rcases stepsText_cases steps with ⟨rfl, empty⟩ | ⟨c, rest, starts, apart⟩
        · rw [empty]
          rfl
        · rw [starts]
          simp [readAnchor, apart]
  · rfl

theorem text_inj {path other : Path} (h : path.text = other.text) : path = other := by
  rw [← ofText_text path, h, ofText_text]

end Path

end DiagnosticRepair
