import DiagnosticRepair.Log.Journal

namespace DiagnosticRepair.Journal

variable {old known : List Path}

theorem subset_insertNew (path : Path) (h : known ⊆ old) : known ⊆ insertNew old path := by
  intro other member
  apply (mem_insertNew old path other).2
  exact .inl (h member)

theorem foldl_insertNew_filter (new : List Path) (h : known ⊆ old) :
    (new.filter (!known.contains ·)).foldl insertNew old = new.foldl insertNew old := by
  induction new generalizing old with
  | nil => rfl
  | cons path rest ih =>
      cases listed : known.contains path with
      | true =>
          have there : path ∈ old := h (List.contains_iff_mem.1 listed)
          rw [List.filter_cons_of_neg (by simp [List.contains_iff_mem.1 listed]), List.foldl_cons,
            insertNew, if_pos there]
          exact ih h
      | false =>
          rw [List.filter_cons_of_pos (by rw [listed]; rfl), List.foldl_cons, List.foldl_cons]
          exact ih (subset_insertNew path h)

theorem subset_foldl_insertNew (new : List Path) : new ⊆ new.foldl insertNew old := by
  intro path member
  exact (mem_touched_extend ⟨old, [], []⟩ ⟨new, []⟩ path).2 (.inr member)

theorem extend_empty (journal : Journal) : journal.extend .empty = journal := by
  simp [extend, Outcome.empty, Outcome.warnings]

theorem extend_add (journal : Journal) (a b : Outcome) :
    journal.extend (a.add b) = (journal.extend a).extend b := by
  have touched : (a.touched ++ b.touched.filter (!a.touched.contains ·)).foldl insertNew
      journal.touched = b.touched.foldl insertNew (a.touched.foldl insertNew journal.touched) := by
    rw [List.foldl_append]
    exact foldl_insertNew_filter b.touched (subset_foldl_insertNew a.touched)
  have warnings : (a.add b).warnings = a.warnings ++ b.warnings := Outcome.warnings_add a b
  simp only [extend, Outcome.add, touched, List.append_assoc] at warnings ⊢
  rw [warnings]

theorem extend_sum (journal : Journal) (outcomes : List Outcome) :
    journal.extend (.sum outcomes) = outcomes.foldl extend journal := by
  suffices ∀ start : Outcome, journal.extend (outcomes.foldl Outcome.add start) =
      outcomes.foldl extend (journal.extend start) by
    rw [Outcome.sum, this, extend_empty]
  induction outcomes with
  | nil => exact fun _ => rfl
  | cons outcome rest ih =>
      intro start
      rw [List.foldl_cons, List.foldl_cons, ih, extend_add]

end DiagnosticRepair.Journal
