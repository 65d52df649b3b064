import DiagnosticRepair.Diagnostic.Basic

namespace DiagnosticRepair.Diagnostic

variable {line output : Text} {lines : List Text} {diagnostic : Diagnostic}
  {diagnostics : List Diagnostic}

def Overlong (output : Text) : Prop :=
  ∃ line ∈ Text.lines output, ∃ file marker, findMarker? (Text.trim line) = some (file, marker) ∧
    (TooManyDigits.limit < marker.line.length ∨ TooManyDigits.limit < marker.column.length)

theorem readDigits_of_le {digits : Text} (h : ¬ TooManyDigits.limit < digits.length) :
    Text.readDigits digits = .ok (Text.digitsValue digits) := by
  rw [Text.readDigits, if_neg h]

theorem readDigits_of_lt {digits : Text} (h : TooManyDigits.limit < digits.length) :
    Text.readDigits digits = .error ⟨digits.length⟩ := by
  rw [Text.readDigits, if_pos h]

theorem ofLine?_returns_iff :
    (∃ found, ofLine? line = .ok found) ↔ ∀ file marker,
      findMarker? (Text.trim line) = some (file, marker) →
        ¬ (TooManyDigits.limit < marker.line.length ∨
          TooManyDigits.limit < marker.column.length) := by
  unfold ofLine?
  cases read : findMarker? (Text.trim line) with
  | none => simp [read]
  | some pair =>
      obtain ⟨file, marker⟩ := pair
      simp only [read]
      constructor
      · rintro ⟨found, ran⟩ file' marker' same
        cases same
        rintro (long | long)
        · rw [readDigits_of_lt long] at ran
          cases ran
        · by_cases number : TooManyDigits.limit < marker.line.length
          · rw [readDigits_of_lt number] at ran
            cases ran
          · rw [readDigits_of_le number, readDigits_of_lt long] at ran
            cases ran
      · intro short
        have within := not_or.1 (short file marker rfl)
        rw [readDigits_of_le within.1, readDigits_of_le within.2]
        exact ⟨_, rfl⟩

theorem ofLines_returns_iff :
    (∃ diagnostics, ofLines lines = .ok diagnostics) ↔
      ∀ line ∈ lines, ∃ found, ofLine? line = .ok found := by
  induction lines with
  | nil => simp [ofLines]
  | cons line rest ih =>
      rw [List.forall_mem_cons, ← ih, ofLines]
      constructor
      · rintro ⟨diagnostics, ran⟩
        cases first : ofLine? line with
        | error e =>
            rw [first] at ran
            cases ran
        | ok found =>
            cases others : ofLines rest with
            | error e =>
                rw [first, others] at ran
                cases ran
            | ok more => exact ⟨⟨found, rfl⟩, ⟨more, rfl⟩⟩
      · rintro ⟨⟨found, first⟩, ⟨more, others⟩⟩
        rw [first, others]
        exact ⟨_, rfl⟩

theorem ofLines_cons_iff : ofLines (line :: lines) = .ok diagnostics ↔
    ∃ found others, ofLine? line = .ok found ∧ ofLines lines = .ok others ∧
      diagnostics = found.toList ++ others := by
  rw [ofLines]
  cases ofLine? line with
  | error e => simp [bind, Except.bind]
  | ok found =>
      cases ofLines lines with
      | error e => simp [bind, Except.bind]
      | ok others => simp [bind, Except.bind, eq_comm]

theorem ofLines_append_iff {xs ys : List Text} : ofLines (xs ++ ys) = .ok diagnostics ↔
    ∃ first second, ofLines xs = .ok first ∧ ofLines ys = .ok second ∧
      diagnostics = first ++ second := by
  rw [ofLines_append]
  cases ofLines xs with
  | error e => simp [bind, Except.bind]
  | ok first =>
      cases ofLines ys with
      | error e => simp [bind, Except.bind]
      | ok second => simp [bind, Except.bind, eq_comm]

theorem mem_of_ofLines (read : ofLines lines = .ok diagnostics) :
    diagnostic ∈ diagnostics ↔ ∃ line ∈ lines, ofLine? line = .ok (some diagnostic) := by
  induction lines generalizing diagnostics with
  | nil =>
      cases read
      simp
  | cons line rest ih =>
      obtain ⟨found, others, first, later, rfl⟩ := ofLines_cons_iff.1 read
      rw [List.mem_append, Option.mem_toList, ih later]
      simp [first]

theorem parse_of_toOption (h : (parse output).toOption = some diagnostics) :
    parse output = .ok diagnostics := by
  cases parsed : parse output with
  | error e =>
      rw [parsed] at h
      cases h
  | ok found =>
      rw [parsed] at h
      rw [Option.some.inj h]

theorem parse_returns_iff : (∃ diagnostics, parse output = .ok diagnostics) ↔ ¬ Overlong output := by
  rw [parse, ofLines_returns_iff]
  simp only [ofLine?_returns_iff, Overlong]
  constructor
  · rintro short ⟨line, member, file, marker, read, long⟩
    exact short line member file marker read long
  · intro short line member file marker read long
    exact short ⟨line, member, file, marker, read, long⟩

theorem overlong_of_error {e : TooManyDigits} (h : parse output = .error e) : Overlong output := by
  by_cases long : Overlong output
  · exact long
  · obtain ⟨diagnostics, ran⟩ := parse_returns_iff.2 long
    rw [h] at ran
    cases ran

end DiagnosticRepair.Diagnostic
