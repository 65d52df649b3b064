import DiagnosticRepair.Source.ImportBlock

namespace DiagnosticRepair.ImportBlock

variable {line last other : Text} {lines inner above statement gap run below : List Text}
  {index block n : Nat}

def Starts (line : Text) : Prop :=
  "import ".toList <+: line

def Opens (line : Text) : Prop :=
  openBrace ∈ line ∧ closeBrace ∉ line

theorem startsImport_iff : startsImport line = true ↔ Starts line :=
  List.isPrefixOf_iff_prefix

theorem leavesOpen_iff : leavesOpen line = true ↔ Opens line := by
  simp [leavesOpen, Opens]

theorem not_starts_of_blank (h : Text.allBlank line = true) : ¬ Starts line := by
  rintro ⟨rest, rfl⟩
  have letter : Text.isBlank 'i' = false := by decide
  simp [Text.allBlank, letter] at h

inductive Statement : List Text → List Text → Prop
  | single {line : Text} {below : List Text} (starts : Starts line) (whole : ¬ Opens line) :
      Statement [line] below
  | closed {line last : Text} {inner below : List Text} (starts : Starts line) (opens : Opens line)
      (within : ∀ other ∈ inner, closeBrace ∉ other) (closes : closeBrace ∈ last) :
      Statement (line :: (inner ++ [last])) below
  | unclosed {line : Text} {inner : List Text} (starts : Starts line) (opens : Opens line)
      (within : ∀ other ∈ inner, closeBrace ∉ other) : Statement (line :: inner) []

inductive Run : List Text → List Text → Prop
  | last {statement below : List Text} (h : Statement statement below) : Run statement below
  | more {statement gap run below : List Text} (first : Statement statement (gap ++ run ++ below))
      (blank : ∀ line ∈ gap, Text.allBlank line = true) (rest : Run run below) :
      Run (statement ++ gap ++ run) below

/-- The first line that is not blank starts no import. -/
def Stops (below : List Text) : Prop :=
  ∀ line, below.find? (!Text.allBlank ·) = some line → ¬ Starts line

/-- The first `n` lines end with the first run of imports, or are none where there is no import. -/
structure EndsFirstRun (lines : List Text) (n : Nat) : Prop where
  le_length : n ≤ lines.length
  eq_zero_iff : n = 0 ↔ ∀ line ∈ lines, ¬ Starts line
  run : n ≠ 0 → ∃ above run, lines.take n = above ++ run ∧ (∀ line ∈ above, ¬ Starts line) ∧
    Run run (lines.drop n)
  stops : Stops (lines.drop n)

theorem Statement.exists_cons (h : Statement statement below) :
    ∃ line rest, statement = line :: rest ∧ Starts line := by
  cases h with
  | single starts whole => exact ⟨_, _, rfl, starts⟩
  | closed starts opens within closes => exact ⟨_, _, rfl, starts⟩
  | unclosed starts opens within => exact ⟨_, _, rfl, starts⟩

theorem Run.exists_cons (h : Run run below) : ∃ line rest, run = line :: rest ∧ Starts line := by
  cases h with
  | last h => exact h.exists_cons
  | more first blank rest =>
      obtain ⟨line, more, rfl, starts⟩ := first.exists_cons
      exact ⟨line, _, rfl, starts⟩

section Reading

theorem endFrom_of_starts (h : Starts line) (index block : Nat) (rest : List Text) :
    endFrom false index block (line :: rest) =
      endFrom (leavesOpen line) (index + 1) (index + 1) rest := by
  rw [endFrom, if_pos (startsImport_iff.2 h)]

theorem endFrom_of_passed (h : ¬ Starts line) (passed : Text.allBlank line = true ∨ block = 0)
    (index : Nat) (rest : List Text) :
    endFrom false index block (line :: rest) = endFrom false (index + 1) block rest := by
  rw [endFrom, if_neg (mt startsImport_iff.1 h), if_pos (by simpa using passed)]

theorem endFrom_append (passed : ∀ line ∈ above, ¬ Starts line ∧
      (Text.allBlank line = true ∨ block = 0)) (index : Nat) (rest : List Text) :
    endFrom false index block (above ++ rest) =
      endFrom false (index + above.length) block rest := by
  induction above generalizing index with
  | nil => rfl
  | cons line above ih =>
      obtain ⟨⟨apart, here⟩, later⟩ := List.forall_mem_cons.1 passed
      rw [List.cons_append, endFrom_of_passed apart here, ih later, List.length_cons,
        Nat.add_right_comm, Nat.add_assoc]

theorem endFrom_within (within : ∀ line ∈ inner, closeBrace ∉ line) (index : Nat)
    (rest : List Text) :
    endFrom true index index (inner ++ rest) =
      endFrom true (index + inner.length) (index + inner.length) rest := by
  induction inner generalizing index with
  | nil => rfl
  | cons line inner ih =>
      obtain ⟨here, later⟩ := List.forall_mem_cons.1 within
      have goes_on : (!line.contains closeBrace) = true := by simpa using here
      rw [List.cons_append, endFrom, goes_on, ih later, List.length_cons, Nat.add_right_comm,
        Nat.add_assoc]

theorem endFrom_statement (h : Statement statement below) (index block : Nat) :
    endFrom false index block (statement ++ below) =
      endFrom false (index + statement.length) (index + statement.length) below := by
  cases h with
  | single starts whole =>
      rw [List.singleton_append, endFrom_of_starts starts,
        Bool.eq_false_iff.2 (mt leavesOpen_iff.1 whole)]
      rfl
  | @closed line last inner _ starts opens within closes =>
      have ends : (!last.contains closeBrace) = false := by simpa using closes
      have length : index + (line :: (inner ++ [last])).length = index + 1 + inner.length + 1 := by
        simp only [List.length_cons, List.length_append, List.length_nil]
        omega
      rw [List.cons_append, endFrom_of_starts starts, leavesOpen_iff.2 opens, List.append_assoc,
        endFrom_within within, List.singleton_append, endFrom, ends, length]
  | @unclosed line inner starts opens within =>
      have length : index + (line :: inner).length = index + 1 + inner.length := by
        simp only [List.length_cons]
        omega
      rw [List.cons_append, endFrom_of_starts starts, leavesOpen_iff.2 opens,
        endFrom_within within, length]
      rfl

theorem endFrom_of_stops (some_block : block ≠ 0) (stops : Stops below) (index : Nat) :
    endFrom false index block below = block := by
  induction below generalizing index with
  | nil => rfl
  | cons line below ih =>
      cases blank : Text.allBlank line with
      | true =>
          have later : Stops below := fun other found =>
            stops other (by rw [List.find?_cons_of_neg (by simp [blank]), found])
          rw [endFrom_of_passed (not_starts_of_blank blank) (.inl blank), ih later]
      | false =>
          have apart : ¬ Starts line := stops line (List.find?_cons_of_pos (by simp [blank]))
          rw [endFrom, if_neg (mt startsImport_iff.1 apart), if_neg (by simp [blank, some_block])]

theorem endFrom_run (h : Run run below) (stops : Stops below) (index block : Nat) :
    endFrom false index block (run ++ below) = index + run.length := by
  induction h generalizing index block with
  | last h =>
      obtain ⟨line, rest, rfl, _⟩ := h.exists_cons
      rw [endFrom_statement h, endFrom_of_stops (by simp) stops]
  | more first blank rest ih =>
      -- the statement moves the end behind itself, the gap leaves it where it is
      have behind := endFrom_statement first index block
      simp only [List.append_assoc] at behind ⊢
      rw [behind, endFrom_append (fun line member =>
        ⟨not_starts_of_blank (blank line member), .inl (blank line member)⟩), ih stops]
      simp only [List.length_append, Nat.add_assoc]

end Reading

theorem EndsFirstRun.endIndex_eq (h : EndsFirstRun lines n) : endIndex lines = n := by
  by_cases zero : n = 0
  · have passed := endFrom_append (fun line member => ⟨h.eq_zero_iff.1 zero line member, .inr rfl⟩)
      0 []
    rw [List.append_nil] at passed
    rw [endIndex, passed, zero]
    rfl
  · obtain ⟨above, run, cut, apart, runs⟩ := h.run zero
    have whole := List.take_append_drop n lines
    have length := congrArg List.length cut
    rw [List.length_take_of_le h.le_length, List.length_append] at length
    rw [endIndex, ← whole, cut, List.append_assoc,
      endFrom_append (fun line member => ⟨apart line member, .inr rfl⟩), endFrom_run runs h.stops]
    omega

section Finding

theorem exists_statement (starts : Starts line) (rest : List Text) :
    ∃ statement below, line :: rest = statement ++ below ∧ Statement statement below := by
  by_cases opens : Opens line
  · cases found : rest.find? (·.contains closeBrace) with
    | none =>
        refine ⟨line :: rest, [], (List.append_nil _).symm, .unclosed starts opens ?_⟩
        simpa using found
    | some last =>
        obtain ⟨closes, inner, below, rfl, within⟩ := List.find?_eq_some_iff_append.1 found
        refine ⟨line :: (inner ++ [last]), below, by simp, .closed starts opens ?_ ?_⟩
        · simpa using within
        · simpa using closes
  · exact ⟨[line], rest, rfl, .single starts opens⟩

theorem exists_run (starts : Starts line) (rest : List Text) :
    ∃ run below, line :: rest = run ++ below ∧ Run run below ∧ Stops below := by
  induction size : rest.length using Nat.strongRecOn generalizing line rest with
  | ind n ih =>
    obtain ⟨statement, below, cut, first⟩ := exists_statement starts rest
    by_cases stops : Stops below
    · exact ⟨statement, below, cut, .last first, stops⟩
    · obtain ⟨next, found, starts'⟩ : ∃ next, below.find? (!Text.allBlank ·) = some next ∧
          Starts next := by
        simpa [Stops] using stops
      obtain ⟨_, gap, rest', rfl, blank⟩ := List.find?_eq_some_iff_append.1 found
      -- behind the statement and the gap there are fewer lines
      have fewer : rest'.length < n := by
        obtain ⟨_, _, rfl, _⟩ := first.exists_cons
        have lengths := congrArg List.length cut
        simp only [List.length_cons, List.length_append] at lengths
        omega
      obtain ⟨run, below, cut', runs, stops⟩ := ih _ fewer starts' rest' rfl
      rw [cut'] at first cut
      refine ⟨statement ++ gap ++ run, below, by simp [cut], .more ?_ ?_ runs, stops⟩
      · simpa using first
      · simpa using blank

theorem exists_endsFirstRun (lines : List Text) : ∃ n, EndsFirstRun lines n := by
  cases found : lines.find? startsImport with
  | none =>
      have apart : ∀ line ∈ lines, ¬ Starts line := fun line member =>
        mt startsImport_iff.2 (List.find?_eq_none.1 found line member)
      refine ⟨0, Nat.zero_le _, iff_of_true rfl apart, fun some_lines => absurd rfl some_lines, ?_⟩
      exact fun line first => apart line (List.mem_of_find?_eq_some first)
  | some line =>
      obtain ⟨starts, above, rest, rfl, apart⟩ := List.find?_eq_some_iff_append.1 found
      obtain ⟨run, below, cut, runs, stops⟩ := exists_run (startsImport_iff.1 starts) rest
      have whole : above ++ line :: rest = (above ++ run) ++ below := by
        rw [cut, List.append_assoc]
      obtain ⟨first, more, rfl, starts⟩ := runs.exists_cons
      refine ⟨(above ++ first :: more).length, ?_, iff_of_false (by simp) fun none_starts => ?_,
        fun _ => ⟨above, first :: more, ?_, fun other member => ?_, ?_⟩, ?_⟩
      · rw [whole]
        simp
      · exact none_starts first (by simp [whole]) starts
      · rw [whole, List.take_left]
      · exact mt startsImport_iff.2 (by simpa using apart other member)
      · rw [whole, List.drop_left]
        exact runs
      · rw [whole, List.drop_left]
        exact stops

end Finding

theorem endIndex_eq_iff : endIndex lines = n ↔ EndsFirstRun lines n := by
  obtain ⟨m, ends⟩ := exists_endsFirstRun lines
  constructor
  · rintro rfl
    rwa [ends.endIndex_eq]
  · exact EndsFirstRun.endIndex_eq

section Closing

variable {front back : List Text}

theorem cut_of_append_eq {first second : List Text} (cut : first ++ second = front ++ line :: back) :
    (∃ behind, first = front ++ line :: behind ∧ back = behind ++ second) ∨
      ∃ ahead, second = ahead ++ line :: back := by
  rcases List.append_eq_append_iff.1 cut with ⟨ahead, _, split⟩ | ⟨behind, first_eq, split⟩
  · exact .inr ⟨ahead, split⟩
  · cases behind with
    | nil => exact .inr ⟨[], split.symm⟩
    | cons other behind =>
        obtain ⟨rfl, back_eq⟩ := List.cons.inj split
        exact .inl ⟨behind, first_eq, back_eq⟩

theorem Statement.closes (h : Statement statement below)
    (cut : statement = front ++ line :: back) (opens : Opens line) :
    (∃ other ∈ back, closeBrace ∈ other) ∨ below = [] := by
  cases h with
  | single starts whole =>
      cases front with
      | nil => exact absurd ((List.cons.inj cut).1 ▸ opens) whole
      | cons first front => simp at cut
  | @closed start last inner _ starts opens' within closes =>
      rw [← List.cons_append] at cut
      rcases List.eq_nil_or_concat back with rfl | ⟨back, final, rfl⟩
      · obtain ⟨_, same⟩ := List.append_inj' cut rfl
        exact absurd ((List.cons.inj same).1 ▸ closes) opens.2
      · rw [List.concat_eq_append, ← List.cons_append, ← List.append_assoc] at cut
        obtain ⟨_, same⟩ := List.append_inj' cut rfl
        refine .inl ⟨last, ?_, closes⟩
        rw [(List.cons.inj same).1]
        simp
  | unclosed starts opens' within => exact .inr rfl

theorem Run.closes (h : Run run below) (cut : run = front ++ line :: back) (starts : Starts line)
    (opens : Opens line) : (∃ other ∈ back, closeBrace ∈ other) ∨ below = [] := by
  induction h generalizing front back with
  | last h => exact h.closes cut opens
  | more first blank rest ih =>
      rw [List.append_assoc] at cut
      rcases cut_of_append_eq cut with ⟨behind, inside, rfl⟩ | ⟨ahead, later⟩
      · rcases first.closes inside opens with ⟨other, member, closes⟩ | none_left
        · exact .inl ⟨other, List.mem_append_left _ member, closes⟩
        · obtain ⟨_, _, rfl, _⟩ := rest.exists_cons
          simp at none_left
      · rcases cut_of_append_eq later with ⟨_, gap_eq, _⟩ | ⟨_, run_eq⟩
        · exact absurd starts (not_starts_of_blank (blank line (by simp [gap_eq])))
        · exact ih run_eq

end Closing

theorem endIndex_ends_first_run (lines : List Text) :
    (∀ n, endIndex lines = n ↔ EndsFirstRun lines n) ∧
    ∀ front line back, lines.take (endIndex lines) = front ++ line :: back → Starts line →
      Opens line → (∃ other ∈ back, closeBrace ∈ other) ∨ endIndex lines = lines.length := by
  refine ⟨fun _ => endIndex_eq_iff, fun front line back cut starts opens => ?_⟩
  have ends := endIndex_eq_iff.1 (rfl : endIndex lines = _)
  obtain ⟨above, run, split, apart, runs⟩ := ends.run fun zero => by simp [zero] at cut
  rw [split] at cut
  rcases cut_of_append_eq cut with ⟨_, rfl, _⟩ | ⟨_, run_eq⟩
  · exact absurd starts (apart line (by simp))
  · rcases runs.closes run_eq starts opens with closed | none_left
    · exact .inl closed
    · exact .inr (Nat.le_antisymm ends.le_length (List.drop_eq_nil_iff.1 none_left))

theorem endIndex_ends_first_run_nested :
    let lines : List Text := ["// a", "import b", "", "import \x7b", "import c", "\x7d", " ", "d();",
      "import e"]
    EndsFirstRun lines 6 ∧ Starts "import \x7b" ∧ Opens "import \x7b" ∧
      ∃ other ∈ ["import c".toList, "\x7d".toList], closeBrace ∈ other := by
  intro lines
  obtain ⟨ends, closes⟩ := endIndex_ends_first_run lines
  have at_six : endIndex lines = 6 := by decide
  have starts : Starts "import \x7b" := by
    unfold Starts
    decide
  have opens : Opens "import \x7b" := by
    unfold Opens
    decide
  have closed := closes ["// a", "import b", ""] "import \x7b" ["import c", "\x7d"]
    (by rw [at_six]; rfl) starts opens
  exact ⟨(ends 6).1 at_six, starts, opens, closed.resolve_right (by rw [at_six]; decide)⟩

end DiagnosticRepair.ImportBlock
