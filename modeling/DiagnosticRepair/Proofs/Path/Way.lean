import DiagnosticRepair.Path.Lexical

namespace DiagnosticRepair.Location

variable {name : FileName} {here there : Location}

theorem wayTo_append (shared here there : Location) :
    wayTo (shared ++ here) (shared ++ there) = wayTo here there := by
  induction shared with
  | nil => rfl
  | cons first rest ih =>
      rw [List.cons_append, List.cons_append, wayTo, if_pos rfl, ih]

theorem wayTo_below (here below : Location) : wayTo here (here ++ below) = below.map .down := by
  have way := wayTo_append here [] below
  rw [List.append_nil] at way
  rw [way]
  cases below <;> rfl

theorem exists_wayTo (here there : Location) : ∃ shared up down, here = shared ++ up ∧
    there = shared ++ down ∧ wayTo here there = List.replicate up.length .up ++ down.map .down ∧
    ∀ name, up.head? = some name → down.head? ≠ some name := by
  induction here generalizing there with
  | nil =>
      exact ⟨[], [], there, rfl, rfl, by cases there <;> rfl, fun _ none => by cases none⟩
  | cons first here ih =>
      cases there with
      | nil =>
          exact ⟨[], first :: here, [], rfl, rfl, by simp [wayTo], fun _ _ none => by cases none⟩
      | cons second there =>
          by_cases same : first = second
          · subst same
            obtain ⟨shared, up, down, rfl, rfl, way, apart⟩ := ih there
            refine ⟨first :: shared, up, down, rfl, rfl, ?_, apart⟩
            rw [wayTo, if_pos rfl, way]
          · refine ⟨[], first :: here, second :: there, rfl, rfl, ?_, ?_⟩
            · rw [wayTo, if_neg same]
              rfl
            · rintro name here_first there_first
              exact same (Option.some.inj (here_first.trans there_first.symm))

theorem exists_down_iff : (∃ rest, wayTo here there = .down name :: rest) ↔
    ∃ rest, there = here ++ name :: rest := by
  constructor
  · rintro ⟨rest, way⟩
    obtain ⟨shared, up, down, rfl, rfl, way', _⟩ := exists_wayTo here there
    rw [way] at way'
    cases up with
    | cons first up => cases way'
    | nil =>
        cases down with
        | nil => cases way'
        | cons second down =>
            have same : name = second := by simpa using (List.cons.inj way').1
            exact ⟨down, by rw [same, List.append_nil]⟩
  · rintro ⟨rest, rfl⟩
    exact ⟨rest.map .down, wayTo_below here (name :: rest)⟩

theorem follow_eq_take_append (here : Location) (steps : List Step) : ∃ n names,
    here.follow steps = here.take n ++ names ∧ ∀ name ∈ names, .down name ∈ steps := by
  induction steps generalizing here with
  | nil => exact ⟨here.length, [], by simp [follow], fun _ none => by cases none⟩
  | cons step rest ih =>
      obtain ⟨n, names, reached, own⟩ := ih (here.step step)
      have later : ∀ name ∈ names, .down name ∈ step :: rest :=
        fun name member => List.mem_cons_of_mem _ (own name member)
      cases step with
      | up =>
          refine ⟨min n (here.length - 1), names, ?_, later⟩
          rw [← List.take_take, ← List.dropLast_eq_take]
          exact reached
      | down first =>
          refine ⟨n, [first].take (n - here.length) ++ names, ?_, fun name member => ?_⟩
          · rw [← List.append_assoc, ← List.take_append]
            exact reached
          · rcases List.mem_append.1 member with new | old
            · exact List.mem_singleton.1 (List.mem_of_mem_take new) ▸ List.mem_cons_self ..
            · exact later name old

end DiagnosticRepair.Location
