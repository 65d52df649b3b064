import DiagnosticRepair.Proofs.Disk.Making
import DiagnosticRepair.Proofs.TestFile

namespace DiagnosticRepair

namespace Disk

variable {disk : Disk} {location : Location}

theorem le_foldl_length (entries : List (Location × Node)) (n : Nat) :
    n ≤ entries.foldl (fun n entry => max n entry.1.length) n ∧
      ∀ entry ∈ entries, entry.1.length ≤
        entries.foldl (fun n entry => max n entry.1.length) n := by
  induction entries generalizing n with
  | nil => simp
  | cons first rest ih =>
      obtain ⟨above, inside⟩ := ih (max n first.1.length)
      refine ⟨Nat.le_trans (Nat.le_max_left ..) above, fun entry member => ?_⟩
      rcases List.mem_cons.1 member with rfl | member
      · exact Nat.le_trans (Nat.le_max_right ..) above
      · exact inside entry member

theorem length_le_depth {node : Node} (stands : disk.find? location = some node) :
    location.length ≤ disk.depth := by
  by_cases root : location = []
  · simp [root]
  · obtain ⟨entry, member, rfl⟩ := List.mem_map.1 (disk.mem_keys_of_find? stands root)
    exact (le_foldl_length disk.nodes 0).2 entry member

end Disk

namespace TestFile

variable {disk : Disk} {start : Path} {root : Option Path} {here : Location}
  {way : List FileName} {node : Node} {files : List Path}

inductive TestName : Text → Prop
  | plain {stem : Text} {kind extension : String} (test : kind ∈ [".test", ".spec"])
      (script : extension ∈ [".ts", ".tsx", ".js", ".jsx"]) :
      TestName (stem ++ (kind.toList ++ extension.toList))
  | broken {stem : Text} {kind extension : String} (test : kind ∈ [".test", ".spec"])
      (script : extension ∈ [".ts", ".tsx", ".js", ".jsx"]) :
      TestName (stem ++ (kind.toList ++ extension.toList) ++ ['\n'])

theorem ends_iff {name : Text} : suffixes.any (·.isSuffixOf name) = true ↔
    ∃ stem kind extension, kind ∈ [".test", ".spec"] ∧ extension ∈ [".ts", ".tsx", ".js", ".jsx"] ∧
      name = stem ++ (kind.toList ++ extension.toList) := by
  simp only [suffixes, List.any_eq_true, List.mem_flatMap, List.mem_map, List.isSuffixOf_iff_suffix]
  constructor
  · rintro ⟨_, ⟨kind, test, extension, script, rfl⟩, stem, rfl⟩
    exact ⟨stem, kind, extension, test, script, rfl⟩
  · rintro ⟨stem, kind, extension, test, script, rfl⟩
    exact ⟨_, ⟨kind, test, extension, script, rfl⟩, stem, rfl⟩

theorem isTestName_iff {name : Text} : isTestName name = true ↔ TestName name := by
  unfold isTestName
  constructor
  · intro ends
    split at ends
    · rename_i ended
      obtain ⟨front, rfl⟩ := List.getLast?_eq_some_iff.1 ended
      rw [List.dropLast_concat] at ends
      obtain ⟨stem, kind, extension, test, script, rfl⟩ := ends_iff.1 ends
      exact .broken test script
    · obtain ⟨stem, kind, extension, test, script, rfl⟩ := ends_iff.1 ends
      exact .plain test script
  · rintro (⟨test, script⟩ | ⟨test, script⟩)
    · rename_i stem kind extension
      have last : (stem ++ (kind.toList ++ extension.toList)).getLast? ≠ some '\n' := by
        have all : ∀ extension ∈ [".ts", ".tsx", ".js", ".jsx"],
            extension.toList.getLast?.any (· != '\n') = true := by decide
        obtain ⟨c, ends, apart⟩ := (Option.any_eq_true _ _).1 (all extension script)
        rw [← List.append_assoc, List.getLast?_append, ends, Option.some_or]
        simpa using apart
      rw [if_neg last]
      exact ends_iff.2 ⟨_, _, _, test, script, rfl⟩
    · rw [if_pos (by simp), List.dropLast_concat]
      exact ends_iff.2 ⟨_, _, _, test, script, rfl⟩

/-- What stands at the end of a way below a place, with no excluded directory before it. -/
structure Reached (disk : Disk) (here : Location) (way : List FileName) (node : Node) : Prop where
  some_name : way ≠ []
  stands : disk.find? (here ++ way) = some node
  looked : ∀ name ∈ way.dropLast, isExcluded name.text = false

theorem reached_cons_iff {name : FileName} {rest : List FileName} :
    Reached disk here (name :: rest) node ↔
      (rest = [] ∧ disk.find? (here ++ [name]) = some node ∨
        disk.find? (here ++ [name]) = some .directory ∧ isExcluded name.text = false ∧
          Reached disk (here ++ [name]) rest node) := by
  have moved : here ++ name :: rest = here ++ [name] ++ rest := List.append_cons ..
  constructor
  · rintro ⟨_, stands, looked⟩
    by_cases last : rest = []
    · subst last
      exact .inl ⟨rfl, stands⟩
    · -- what stands further down stands in directories
      rw [moved] at stands
      rw [List.dropLast_cons_of_ne_nil last] at looked
      obtain ⟨first, later⟩ := List.forall_mem_cons.1 looked
      exact .inr ⟨Disk.directory_of_below last stands, first, last, stands, later⟩
  · rintro (⟨rfl, stands⟩ | ⟨_, first, last, stands, later⟩)
    · exact ⟨List.cons_ne_nil _ _, stands, by simp⟩
    · refine ⟨List.cons_ne_nil _ _, moved ▸ stands, ?_⟩
      rw [List.dropLast_cons_of_ne_nil last]
      exact List.forall_mem_cons.2 ⟨first, later⟩

theorem mem_entriesFrom_iff {bound : Nat} : (way, node) ∈ entriesFrom disk bound here ↔
    Reached disk here way node ∧ way.length ≤ bound := by
  induction bound generalizing here way with
  | zero =>
      refine iff_of_false List.not_mem_nil fun ⟨reached, short⟩ => ?_
      exact reached.some_name (List.length_eq_zero_iff.1 (Nat.le_zero.1 short))
  | succ bound ih =>
      simp only [mem_entriesFrom_succ_iff, mem_metUnder_iff, ih]
      constructor
      · rintro ⟨name, _, rest, rfl, ⟨rfl, stands⟩ | ⟨inside, first, reached, short⟩⟩
        · exact ⟨reached_cons_iff.2 (.inl ⟨rfl, stands⟩), by simp⟩
        · exact ⟨reached_cons_iff.2 (.inr ⟨inside, first, reached⟩), Nat.succ_le_succ short⟩
      · rintro ⟨reached, short⟩
        obtain ⟨name, rest, rfl⟩ := List.exists_cons_of_ne_nil reached.some_name
        rcases reached_cons_iff.1 reached with ⟨rfl, stands⟩ | ⟨inside, first, later⟩
        · exact ⟨name, Disk.mem_children_of_find? stands, [], rfl, .inl ⟨rfl, stands⟩⟩
        · exact ⟨name, Disk.mem_children_of_find? inside, rest, rfl,
            .inr ⟨inside, first, later, Nat.le_of_succ_le_succ short⟩⟩

theorem mem_met_iff : (way, node) ∈ entriesFrom disk (disk.depth + 1) here ↔
    Reached disk here way node := by
  rw [mem_entriesFrom_iff]
  -- no way on the disk is longer than it is deep
  refine and_iff_left_of_imp fun reached => ?_
  have deep := Disk.length_le_depth reached.stands
  rw [List.length_append] at deep
  omega

inductive Stops (disk : Disk) (start : Path) : Prop
  | start (long : disk.TooLong start) : Stops disk start
  | reached {here : Location} {way : List FileName} {node : Node}
      (leads : disk.place? start = some here) (inside : disk.find? here = some .directory)
      (met : Reached disk here way node)
      (long : disk.TooLong (start ++ ⟨.here, way.map .down⟩)) : Stops disk start

theorem searchStops_iff : SearchStops disk start ↔ Stops disk start := by
  constructor
  · rintro (long | ⟨inside, leads, met, long⟩)
    · exact .start long
    · obtain ⟨here', leads', inside⟩ := Disk.nodeAt?_eq_some_iff.1 inside
      cases leads.symm.trans leads'
      exact .reached leads inside (mem_met_iff.1 met) long
  · rintro (long | ⟨leads, inside, met, long⟩)
    · exact .start long
    · exact .met (Disk.nodeAt?_eq_some_iff.2 ⟨_, leads, inside⟩) leads (mem_met_iff.2 met) long

def IsFound (disk : Disk) (here : Location) (way : List FileName) : Prop :=
  (∃ bytes, Reached disk here way (.file bytes)) ∧ ∃ name, way.getLast? = some name ∧
    TestName name.text

def testWays (disk : Disk) (here : Location) : List (List FileName) :=
  ((entriesFrom disk (disk.depth + 1) here).filter isTestEntry).map (·.1)

theorem mem_testWays_iff : way ∈ testWays disk here ↔ IsFound disk here way := by
  unfold testWays IsFound
  simp only [List.mem_map, List.mem_filter, Prod.exists, exists_and_right, exists_eq_right, mem_met_iff]
  constructor
  · rintro ⟨node, reached, test⟩
    cases node with
    | directory => cases test
    | file bytes =>
        obtain ⟨name, last, test⟩ := (Option.any_eq_true _ _).1 test
        exact ⟨⟨bytes, reached⟩, name, last, isTestName_iff.1 test⟩
  · rintro ⟨⟨bytes, reached⟩, name, last, test⟩
    exact ⟨.file bytes, reached, by simp [isTestEntry, last, isTestName_iff.2 test]⟩

theorem increasing_testWays (disk : Disk) (here : Location) :
    (testWays disk here).Pairwise Precedes :=
  List.pairwise_map.2 ((increasing_entriesFrom _ here).filter _)

def shown (start : Path) (root : Option Path) (way : List FileName) : Path :=
  let path := start ++ (⟨.here, way.map .down⟩ : Path)
  root.elim path path.below

/-- The files told are those found below a place. -/
structure Listing (disk : Disk) (start : Path) (root : Option Path) (here : Location)
    (files : List Path) (ways : List (List FileName)) : Prop where
  told : files = ways.map (shown start root)
  increasing : ways.Pairwise Precedes
  found : ∀ way, way ∈ ways ↔ IsFound disk here way
  resolved : start.isAbsolute = true → ∀ base, root = some base → ∀ way ∈ ways,
    disk.place? (base ++ shown start root way) = some (here ++ way)

structure Lists (disk : Disk) (start : Path) (root : Option Path) (files : List Path) : Prop where
  outside : disk.nodeAt? start ≠ some .directory → files = []
  inside : ∀ here, disk.place? start = some here → disk.find? here = some .directory →
    ∃ ways, Listing disk start root here files ways

theorem find_eq_map (disk : Disk) (start : Path) (root : Option Path) :
    find disk start root = (below disk start).map fun found =>
      found.map fun path => root.elim path path.below := by
  unfold find
  cases below disk start with
  | error e => rfl
  | ok found => cases root <;> simp [bind, Except.bind, pure, Except.pure, Except.map]

theorem find_of_directory (goes : ¬ Stops disk start) (leads : disk.place? start = some here)
    (inside : disk.find? here = some .directory) :
    find disk start root = .ok ((testWays disk here).map (shown start root)) := by
  have lies := Disk.nodeAt?_eq_some_iff.2 ⟨here, leads, inside⟩
  obtain ⟨done, asked⟩ := asked_returns_iff.2 fun entry met long =>
    goes (.reached leads inside (mem_met_iff.1 met) long)
  rw [find_eq_map, below_of_directory lies leads, asked]
  simp only [Except.map, testWays, List.map_map]
  rfl

theorem find_of_no_directory (goes : ¬ Stops disk start)
    (outside : disk.nodeAt? start ≠ some .directory) : find disk start root = .ok [] := by
  obtain ⟨answer, asked⟩ := Disk.isDirectory_returns_iff.2 fun long => goes (.start long)
  rw [find_eq_map, below_of_no_directory asked outside]
  rfl

theorem goes_of_find (h : find disk start root = .ok files) : ¬ Stops disk start := by
  rw [find_eq_map] at h
  rw [← searchStops_iff, ← below_returns_iff]
  cases ran : below disk start with
  | error e =>
      rw [ran] at h
      cases h
  | ok found => exact ⟨found, rfl⟩

theorem resolved_of_goes (goes : ¬ Stops disk start) (leads : disk.place? start = some here)
    (inside : disk.find? here = some .directory) (absolute : start.isAbsolute = true)
    (base : Path) (member : way ∈ testWays disk here) :
    disk.place? (base ++ shown start (some base) way) = some (here ++ way) := by
  obtain ⟨⟨bytes, reached⟩, _⟩ := mem_testWays_iff.1 member
  have whole : base ++ shown start (some base) way = start ++ (⟨.here, way.map .down⟩ : Path) :=
    Path.append_below_of_isAbsolute (Path.isAbsolute_append absolute _) base
  rw [whole]
  exact place?_of_mem_entriesFrom (Disk.nodeAt?_eq_some_iff.2 ⟨here, leads, inside⟩) leads
    (fun entry met long => goes (.reached leads inside (mem_met_iff.1 met) long))
    (mem_met_iff.2 reached)

theorem find_eq_ok_iff (disk : Disk) (start : Path) (root : Option Path) (files : List Path) :
    find disk start root = .ok files ↔ ¬ Stops disk start ∧ Lists disk start root files := by
  constructor
  · intro ran
    have goes := goes_of_find ran
    refine ⟨goes, fun outside => ?_, fun here leads inside => ?_⟩
    · rw [find_of_no_directory goes outside] at ran
      exact (Except.ok.inj ran).symm
    · rw [find_of_directory goes leads inside] at ran
      refine ⟨testWays disk here, (Except.ok.inj ran).symm, increasing_testWays disk here,
        fun way => mem_testWays_iff, ?_⟩
      rintro absolute base rfl way member
      exact resolved_of_goes goes leads inside absolute base member
  · rintro ⟨goes, outside, inside⟩
    by_cases lies : disk.nodeAt? start = some .directory
    · obtain ⟨here, leads, stands⟩ := Disk.nodeAt?_eq_some_iff.1 lies
      obtain ⟨ways, told, increasing, found, _⟩ := inside here leads stands
      have same : testWays disk here = ways :=
        eq_of_pairwise Precedes.asymm (increasing_testWays disk here) increasing fun way =>
          mem_testWays_iff.trans (found way).symm
      rw [find_of_directory goes leads stands, told, same]
    · rw [find_of_no_directory goes lies, outside lies]

def longStart : Path :=
  .ofText (List.replicate 300 'x')

theorem find_longStart : (Disk.empty []).nodeAt? longStart = none ∧
    (find (Disk.empty []) longStart none).toOption = none := by
  decide +kernel

end TestFile

end DiagnosticRepair
