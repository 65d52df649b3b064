import DiagnosticRepair.Diagnostic.Plan

namespace DiagnosticRepair

theorem mem_appendNew {α : Type} [DecidableEq α] {values : List α} {value other : α} :
    other ∈ appendNew values value ↔ other ∈ values ∨ other = value := by
  unfold appendNew
  split
  · rename_i old
    constructor
    · exact .inl
    · rintro (member | rfl)
      · exact member
      · exact old
  · simp

theorem nodup_appendNew {α : Type} [DecidableEq α] {values : List α} {value : α}
    (h : values.Nodup) : (appendNew values value).Nodup := by
  unfold appendNew
  split
  · exact h
  · rename_i new
    rw [List.nodup_append]
    refine ⟨h, List.pairwise_singleton _ value, ?_⟩
    rintro a member b last rfl
    exact new (List.mem_singleton.1 last ▸ member)

theorem mem_foldl_appendNew {α : Type} [DecidableEq α] {other : α} (new : List α) :
    ∀ old : List α, other ∈ new.foldl appendNew old ↔ other ∈ old ∨ other ∈ new := by
  induction new with
  | nil => simp
  | cons value rest ih =>
      intro old
      rw [List.foldl_cons, ih, mem_appendNew, List.mem_cons, or_assoc]

theorem nodup_foldl_appendNew {α : Type} [DecidableEq α] (new : List α) : ∀ {old : List α},
    old.Nodup → (new.foldl appendNew old).Nodup := by
  induction new with
  | nil => exact fun h => h
  | cons value rest ih => exact fun h => ih (nodup_appendNew h)

namespace Grouped

variable {α : Type} {groups : Grouped α} {key other : Text}

def keys (groups : Grouped α) : List Text :=
  groups.map (·.1)

theorem keys_modify (change : List α → List α) (key : Text) : ∀ groups : Grouped α,
    (groups.modify change key).keys = appendNew groups.keys key
  | [] => rfl
  | group :: rest => by
      have ih := keys_modify change key rest
      unfold modify
      by_cases same : group.1 = key
      · rw [if_pos same]
        simp [keys, appendNew, same]
      · rw [if_neg same]
        simp only [keys, List.map_cons] at ih ⊢
        rw [ih]
        by_cases old : key ∈ rest.map (·.1)
        · simp [appendNew, old]
        · simp only [appendNew, old, if_false, List.mem_cons, Ne.symm same, or_self]
          rfl

theorem filter_modify (change : List α → List α) (key left : Text) : ∀ groups : Grouped α,
    (groups.modify change key).filter (·.1 ≠ left) =
      if key = left then groups.filter (·.1 ≠ left)
      else modify change key (groups.filter (·.1 ≠ left))
  | [] => by
      by_cases same : key = left <;> simp [modify, same]
  | group :: rest => by
      have ih := filter_modify change key left rest
      have step : modify change key (group :: rest) =
        if group.1 = key then (key, change group.2) :: rest else group :: modify change key rest := rfl
      rw [step]
      by_cases met : group.1 = key
      · rw [if_pos met]
        by_cases same : key = left
        · rw [if_pos same, List.filter_cons_of_neg (by simp [same]),
            List.filter_cons_of_neg (by simp [met, same])]
        · rw [if_neg same, List.filter_cons_of_pos (by simpa using same),
            List.filter_cons_of_pos (by simpa [met] using same)]
          simp [modify, met]
      · rw [if_neg met]
        by_cases gone : group.1 = left
        · rw [List.filter_cons_of_neg (by simpa using gone), ih,
            List.filter_cons_of_neg (by simpa using gone)]
        · rw [List.filter_cons_of_pos (by simpa using gone), ih,
            List.filter_cons_of_pos (by simpa using gone)]
          by_cases same : key = left
          · rw [if_pos same, if_pos same]
          · rw [if_neg same, if_neg same]
            simp [modify, met]

theorem get_of_mem (nodup : groups.keys.Nodup) {values : List α} (h : (key, values) ∈ groups) :
    groups.get key = values := by
  induction groups with
  | nil => cases h
  | cons group rest ih =>
      obtain ⟨name, first⟩ := group
      rw [keys, List.map_cons, List.nodup_cons] at nodup
      rcases List.mem_cons.1 h with same | later
      · cases same
        simp [get]
      · have different : key ≠ name := by
          rintro rfl
          exact nodup.1 (List.mem_map.2 ⟨_, later, rfl⟩)
        rw [← ih nodup.2 later]
        simp [get, List.lookup_cons, beq_false_of_ne different]

def collect (put : List α → α → List α) (entries : List (Text × α)) (groups : Grouped α) :
    Grouped α :=
  entries.foldl (fun groups entry => groups.modify (put · entry.2) entry.1) groups

variable {put : List α → α → List α} {entries : List (Text × α)}

theorem keys_collect : ∀ (entries : List (Text × α)) (groups : Grouped α),
    (collect put entries groups).keys = (entries.map (·.1)).foldl appendNew groups.keys
  | [], _ => rfl
  | entry :: rest, groups => by
      rw [collect, List.foldl_cons, ← collect, keys_collect, keys_modify, List.map_cons,
        List.foldl_cons]

theorem get_collect (key : Text) : ∀ (entries : List (Text × α)) (groups : Grouped α),
    (collect put entries groups).get key =
      ((entries.filter (·.1 = key)).map (·.2)).foldl put (groups.get key)
  | [], _ => rfl
  | entry :: rest, groups => by
      rw [collect, List.foldl_cons, ← collect, get_collect, get_modify]
      by_cases same : entry.1 = key
      · simp [same]
      · simp [same, Ne.symm same]

theorem filter_collect (left : Text) : ∀ (entries : List (Text × α)) (groups : Grouped α),
    (collect put entries groups).filter (·.1 ≠ left) =
      collect put (entries.filter (·.1 ≠ left)) (groups.filter (·.1 ≠ left))
  | [], _ => rfl
  | entry :: rest, groups => by
      rw [collect, List.foldl_cons, ← collect, filter_collect, filter_modify]
      by_cases same : entry.1 = left
      · rw [if_pos same, List.filter_cons_of_neg (by simpa using same)]
      · rw [if_neg same, List.filter_cons_of_pos (by simpa using same), collect, collect,
          List.foldl_cons]

theorem nodup_keys_collect (entries : List (Text × α)) :
    (collect put entries []).keys.Nodup := by
  rw [keys_collect]
  exact nodup_foldl_appendNew _ List.nodup_nil

theorem mem_keys_collect {entries : List (Text × α)} :
    key ∈ (collect put entries []).keys ↔ key ∈ entries.map (·.1) := by
  rw [keys_collect, mem_foldl_appendNew]
  simp [keys]

end Grouped

namespace Plan

variable {diagnostics : List Diagnostic} {d : Diagnostic} {file : Text}

def statement? (diagnostic : Diagnostic) : Option Text :=
  (Remedy.ofDiagnostic diagnostic).statement?

def statementsOf (diagnostics : List Diagnostic) (file : Text) : List Text :=
  ((diagnostics.filter (·.file = file)).filterMap statement?).foldl appendNew []

def namesOf (diagnostics : List Diagnostic) (file : Text) : List UnusedName :=
  (unusedNames diagnostics).filter (·.file = file)

theorem imports_eq_collect (diagnostics : List Diagnostic) :
    imports diagnostics = Grouped.collect appendNew
      (diagnostics.filterMap fun diagnostic =>
        (statement? diagnostic).map fun statement => (diagnostic.file, statement)) [] := by
  unfold imports Grouped.collect
  generalize ([] : Grouped Text) = groups
  induction diagnostics generalizing groups with
  | nil => rfl
  | cons diagnostic rest ih =>
      rw [List.foldl_cons, ih]
      cases asked : (Remedy.ofDiagnostic diagnostic).statement? with
      | none => rw [List.filterMap_cons_none (by simp [statement?, asked])]
      | some statement =>
          rw [List.filterMap_cons_some (b := (diagnostic.file, statement))
            (by simp [statement?, asked]), List.foldl_cons]

theorem perFile_eq_collect (names : List UnusedName) :
    perFile names =
      Grouped.collect (fun values name => values ++ [name])
        (names.map fun name => (name.file, name)) [] := by
  unfold perFile Grouped.collect
  rw [List.foldl_map]

theorem get_imports (diagnostics : List Diagnostic) (file : Text) :
    (imports diagnostics).get file = statementsOf diagnostics file := by
  rw [imports_eq_collect, Grouped.get_collect]
  show List.foldl appendNew [] _ = List.foldl appendNew [] _
  congr 1
  induction diagnostics with
  | nil => rfl
  | cons diagnostic rest ih =>
      by_cases here : diagnostic.file = file <;>
        cases asked : statement? diagnostic <;> simp [here, asked, ih]

theorem get_perFile (names : List UnusedName) (file : Text) :
    (perFile names).get file = names.filter (·.file = file) := by
  rw [perFile_eq_collect, Grouped.get_collect]
  have appended : ∀ (new old : List UnusedName),
      new.foldl (fun values name => values ++ [name]) old = old ++ new := by
    intro new
    induction new with
    | nil => simp
    | cons name rest ih =>
        intro old
        rw [List.foldl_cons, ih, List.append_assoc, List.singleton_append]
  rw [appended, List.filter_map, List.map_map]
  show [] ++ List.map id _ = _
  rw [List.nil_append, List.map_id]
  rfl

theorem nodup_keys_imports (diagnostics : List Diagnostic) : (imports diagnostics).keys.Nodup := by
  rw [imports_eq_collect]
  exact Grouped.nodup_keys_collect _

theorem nodup_keys_perFile (names : List UnusedName) : (perFile names).keys.Nodup := by
  rw [perFile_eq_collect]
  exact Grouped.nodup_keys_collect _

theorem mem_keys_imports :
    file ∈ (imports diagnostics).keys ↔
      ∃ diagnostic ∈ diagnostics, diagnostic.file = file ∧ (statement? diagnostic).isSome := by
  rw [imports_eq_collect, Grouped.mem_keys_collect]
  simp only [List.mem_map, List.mem_filterMap, Option.map_eq_some_iff, Option.isSome_iff_exists]
  constructor
  · rintro ⟨_, ⟨diagnostic, member, statement, asked, rfl⟩, rfl⟩
    exact ⟨diagnostic, member, rfl, statement, asked⟩
  · rintro ⟨diagnostic, member, rfl, statement, asked⟩
    exact ⟨_, ⟨diagnostic, member, statement, asked, rfl⟩, rfl⟩

theorem mem_keys_perFile {names : List UnusedName} :
    file ∈ (perFile names).keys ↔ ∃ name ∈ names, name.file = file := by
  rw [perFile_eq_collect, Grouped.mem_keys_collect]
  simp

theorem mem_unusedNames {name : UnusedName} :
    name ∈ unusedNames diagnostics ↔ ∃ diagnostic ∈ diagnostics, unusedName? diagnostic = some name := by
  rw [unusedNames, mem_foldl_appendNew]
  simp

theorem mem_statementsOf {statement : Text} :
    statement ∈ statementsOf diagnostics file ↔
      ∃ diagnostic ∈ diagnostics, diagnostic.file = file ∧ statement? diagnostic = some statement := by
  rw [statementsOf, mem_foldl_appendNew]
  simp [and_assoc]

theorem nodup_statementsOf : (statementsOf diagnostics file).Nodup :=
  nodup_foldl_appendNew _ List.nodup_nil

theorem perFile_filter (names : List UnusedName) (left : Text) :
    perFile (names.filter (·.file ≠ left)) = (perFile names).filter (·.1 ≠ left) := by
  rw [perFile_eq_collect, perFile_eq_collect, Grouped.filter_collect, List.filter_map]
  rfl

theorem file_of_unusedName? {unused : UnusedName} (h : unusedName? d = some unused) :
    unused.file = d.file := by
  unfold unusedName? at h
  split at h
  · exact (congrArg UnusedName.file (Option.some.inj h)).symm
  · cases h

theorem isFixable_of_statement? {statement : Text} (h : statement? d = some statement) :
    (Remedy.ofDiagnostic d).isFixable = true := by
  unfold statement? at h
  cases asked : Remedy.ofDiagnostic d <;> simp_all [Remedy.statement?, Remedy.isFixable]

theorem unusedName?_of_statement? {statement : Text} (h : statement? d = some statement) :
    unusedName? d = none := by
  unfold statement? at h
  unfold unusedName?
  cases asked : Remedy.ofDiagnostic d <;> simp_all [Remedy.statement?]

theorem remedy_cases (d : Diagnostic) :
    (∃ unused, unusedName? d = some unused) ∨ (∃ statement, statement? d = some statement) ∨
      (Remedy.ofDiagnostic d).isFixable = false := by
  unfold unusedName? statement?
  cases Remedy.ofDiagnostic d <;> simp [Remedy.statement?, Remedy.isFixable]

theorem exists_group_of_unusedName? {unused : UnusedName} (member : d ∈ diagnostics)
    (h : unusedName? d = some unused) :
    ∃ names, (d.file, names) ∈ perFile (unusedNames diagnostics) ∧ unused ∈ names := by
  have asked : unused ∈ unusedNames diagnostics := mem_unusedNames.2 ⟨d, member, h⟩
  obtain ⟨⟨file, names⟩, listed, same⟩ :=
    List.mem_map.1 (mem_keys_perFile.2 ⟨unused, asked, file_of_unusedName? h⟩)
  obtain rfl : file = d.file := same
  refine ⟨names, listed, ?_⟩
  rw [← Grouped.get_of_mem (nodup_keys_perFile _) listed, get_perFile]
  exact List.mem_filter.2 ⟨asked, decide_eq_true (file_of_unusedName? h)⟩

theorem statements_of_mem_imports {group : Text × List Text} (h : group ∈ imports diagnostics) :
    group.2 = statementsOf diagnostics group.1 := by
  rw [← get_imports]
  exact (Grouped.get_of_mem (nodup_keys_imports diagnostics) h).symm

theorem exists_group_of_statement? {statement : Text} (member : d ∈ diagnostics)
    (h : statement? d = some statement) :
    ∃ wanted, (d.file, wanted) ∈ imports diagnostics ∧ statement ∈ wanted := by
  obtain ⟨⟨file, wanted⟩, listed, same⟩ :=
    List.mem_map.1 (mem_keys_imports.2 ⟨d, member, rfl, by rw [h]; rfl⟩)
  obtain rfl : file = d.file := same
  have planned : wanted = statementsOf diagnostics d.file := statements_of_mem_imports listed
  refine ⟨wanted, listed, ?_⟩
  rw [planned]
  exact mem_statementsOf.2 ⟨d, member, rfl, h⟩

end Plan

end DiagnosticRepair
