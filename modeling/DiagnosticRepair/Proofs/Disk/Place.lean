import DiagnosticRepair.Disk.Access

namespace DiagnosticRepair.Disk

variable {disk other : Disk} {path : Path} {location here : Location}

def place? (disk : Disk) (path : Path) : Option Location :=
  if path.hasNul then none else (disk.locate path).toOption

def nodeAt? (disk : Disk) (path : Path) : Option Node :=
  (disk.place? path).bind disk.find?

/-- The system refuses a name on the path, or the whole path, for its length. -/
def TooLong (disk : Disk) (path : Path) : Prop :=
  path.hasNul = false ∧ disk.locate path = .error .nameTooLong

theorem find?_dropLast {node : Node} (h : disk.find? location = some node) :
    disk.find? location.dropLast = some .directory := by
  rcases List.eq_nil_or_concat location with rfl | ⟨above, name, rfl⟩
  · rfl
  · rw [List.concat_eq_append] at h ⊢
    rw [List.dropLast_concat]
    exact disk.rooted above name (disk.mem_keys_of_find? h (by simp))

def Blocked (walked : Except Refusal Location) : Prop :=
  walked = .error .notFound ∨ walked = .error .notDirectory

theorem walk_blocked {step : Step} {rest : List Step} (h : disk.find? here ≠ some .directory) :
    Blocked (disk.walk here (step :: rest)) := by
  unfold walk
  cases found : disk.find? here with
  | none => exact .inl rfl
  | some node =>
      cases node with
      | file _ => exact .inr rfl
      | directory => exact absurd found h

theorem walk_up {rest : List Step} (h : disk.find? here = some .directory) :
    disk.walk here (.up :: rest) = disk.walk here.dropLast rest := by
  simp [walk, h]

theorem walk_down {name : FileName} {rest : List Step} (h : disk.find? here = some .directory) :
    disk.walk here (.down name :: rest) =
      if FileName.limit < (Utf8.encode name.text).length then .error .nameTooLong
      else disk.walk (here ++ [name]) rest := by
  simp [walk, h]

theorem walk_append (s t : List Step) : ∀ here : Location,
    disk.walk here (s ++ t) = (disk.walk here s).bind fun there => disk.walk there t := by
  induction s with
  | nil => exact fun _ => rfl
  | cons step rest ih =>
      intro here
      rw [List.cons_append]
      by_cases inside : disk.find? here = some .directory
      · cases step with
        | up => rw [walk_up inside, walk_up inside, ih]
        | down name =>
            rw [walk_down inside, walk_down inside]
            split
            · rfl
            · rw [ih]
      · unfold walk
        cases found : disk.find? here with
        | none => rfl
        | some node =>
            cases node with
            | file _ => rfl
            | directory => exact absurd found inside

theorem walk_error_cases (steps : List Step) : ∀ {here : Location} {refusal : Refusal},
    disk.walk here steps = .error refusal →
      refusal = .notFound ∨ refusal = .notDirectory ∨ refusal = .nameTooLong := by
  induction steps with
  | nil =>
      intro here refusal h
      cases h
  | cons step rest ih =>
      intro here refusal h
      by_cases inside : disk.find? here = some .directory
      · cases step with
        | up =>
            rw [walk_up inside] at h
            exact ih h
        | down name =>
            rw [walk_down inside] at h
            split at h
            · exact .inr (.inr (Except.error.inj h).symm)
            · exact ih h
      · have ended : Blocked (disk.walk here (step :: rest)) := walk_blocked inside
        rcases ended with blocked | blocked
        · rw [blocked] at h
          exact .inl (Except.error.inj h).symm
        · rw [blocked] at h
          exact .inr (.inl (Except.error.inj h).symm)

theorem locate_error_cases {refusal : Refusal} (h : disk.locate path = .error refusal) :
    refusal = .notFound ∨ refusal = .notDirectory ∨ refusal = .nameTooLong := by
  unfold locate at h
  split at h
  · exact .inr (.inr (Except.error.inj h).symm)
  · exact walk_error_cases _ h

theorem place?_eq_some_iff :
    disk.place? path = some location ↔ path.hasNul = false ∧ disk.locate path = .ok location := by
  unfold place?
  split
  · rename_i nul
    simp [nul]
  · rename_i noNul
    cases located : disk.locate path <;> simp [noNul, Except.toOption]

theorem not_tooLong_of_place? (h : disk.place? path = some location) : ¬ disk.TooLong path := by
  intro long
  have located := (place?_eq_some_iff.1 h).2
  rw [long.2] at located
  cases located

theorem node_of_place? (h : disk.place? path = some location) :
    disk.node path = (disk.find? location).elim (.error .notFound) .ok := by
  unfold node
  rw [(place?_eq_some_iff.1 h).2]
  simp only [bind, Except.bind]
  cases disk.find? location <;> rfl

theorem node_of_refused {refusal : Refusal} (h : disk.locate path = .error refusal) :
    disk.node path = .error refusal := by
  unfold node
  rw [h]
  rfl

theorem test_of_tooLong (p : Node → Bool) (h : disk.TooLong path) :
    disk.test p path = .error (.refused .nameTooLong path) := by
  unfold test
  rw [node_of_refused h.2, h.1]
  rfl

theorem test_of_not_tooLong (p : Node → Bool) (h : ¬ disk.TooLong path) :
    disk.test p path = .ok ((disk.nodeAt? path).any p) := by
  unfold test nodeAt?
  cases nul : path.hasNul with
  | true => simp [place?, nul]
  | false =>
      cases located : disk.locate path with
      | ok location =>
          have place : disk.place? path = some location := place?_eq_some_iff.2 ⟨nul, located⟩
          rw [node_of_place? place, place]
          cases found : disk.find? location <;> simp [found, Refusal.meansAbsent]
      | error refusal =>
          rw [node_of_refused located]
          rcases locate_error_cases located with rfl | rfl | rfl
          · simp [place?, nul, located, Refusal.meansAbsent, Except.toOption]
          · simp [place?, nul, located, Refusal.meansAbsent, Except.toOption]
          · exact absurd ⟨nul, located⟩ h

theorem test_eq_true_iff {p : Node → Bool} :
    disk.test p path = .ok true ↔ ∃ node, disk.nodeAt? path = some node ∧ p node = true := by
  by_cases long : disk.TooLong path
  · have : disk.nodeAt? path = none := by
      simp [nodeAt?, place?, long.1, long.2, Except.toOption]
    rw [test_of_tooLong p long, this]
    simp
  · rw [test_of_not_tooLong p long]
    cases disk.nodeAt? path <;> simp

theorem isDirectory_eq_true_iff :
    disk.isDirectory path = .ok true ↔ disk.nodeAt? path = some .directory := by
  unfold isDirectory
  rw [test_eq_true_iff]
  simp

theorem isFile_eq_true_iff :
    disk.isFile path = .ok true ↔ ∃ bytes, disk.nodeAt? path = some (.file bytes) := by
  rw [isFile, test_eq_true_iff]
  constructor
  · rintro ⟨node, found, file⟩
    cases node with
    | directory => simp at file
    | file bytes => exact ⟨bytes, found⟩
  · rintro ⟨bytes, found⟩
    exact ⟨_, found, by simp⟩

theorem nodeAt?_eq_some_iff {node : Node} :
    disk.nodeAt? path = some node ↔
      ∃ location, disk.place? path = some location ∧ disk.find? location = some node :=
  Option.bind_eq_some_iff

theorem not_tooLong_of_nodeAt? {node : Node} (h : disk.nodeAt? path = some node) :
    ¬ disk.TooLong path := by
  obtain ⟨location, place, _⟩ := nodeAt?_eq_some_iff.1 h
  exact not_tooLong_of_place? place

theorem noNul_of_nodeAt? {node : Node} (h : disk.nodeAt? path = some node) :
    path.hasNul = false := by
  obtain ⟨location, place, _⟩ := nodeAt?_eq_some_iff.1 h
  exact (place?_eq_some_iff.1 place).1

theorem read_eq_ok_iff {bytes : Bytes} :
    disk.read path = .ok bytes ↔ disk.nodeAt? path = some (.file bytes) := by
  unfold read nodeAt?
  cases nul : path.hasNul with
  | true => simp [place?, nul]
  | false =>
      cases located : disk.locate path with
      | error refusal => simp [node_of_refused located, place?, nul, located, Except.toOption]
      | ok location =>
          have place : disk.place? path = some location := place?_eq_some_iff.2 ⟨nul, located⟩
          rw [node_of_place? place, place]
          cases found : disk.find? location with
          | none => simp [found]
          | some node => cases node <;> simp [found]

end DiagnosticRepair.Disk
