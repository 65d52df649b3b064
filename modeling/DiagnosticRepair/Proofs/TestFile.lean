import DiagnosticRepair.TestFile
import DiagnosticRepair.Proofs.Disk.Ordering
import DiagnosticRepair.Proofs.Disk.Creation

namespace DiagnosticRepair

theorem Disk.isDirectory_returns_iff {disk : Disk} {path : Path} :
    (∃ answer, disk.isDirectory path = .ok answer) ↔ ¬ disk.TooLong path := by
  constructor
  · rintro ⟨answer, answered⟩ long
    have refused : disk.isDirectory path = .error _ := Disk.test_of_tooLong _ long
    rw [refused] at answered
    cases answered
  · exact fun short => ⟨_, Disk.test_of_not_tooLong _ short⟩

namespace TestFile

variable {disk : Disk} {start path : Path} {way : List FileName}

inductive SearchStops (disk : Disk) (start : Path) : Prop where
  | start : disk.TooLong start → SearchStops disk start
  | met : ∀ {here : Location} {way : List FileName} {node : Node},
      disk.nodeAt? start = some .directory → disk.place? start = some here →
      (way, node) ∈ entriesFrom disk (disk.depth + 1) here →
      disk.TooLong (start ++ ⟨.here, way.map .down⟩) → SearchStops disk start

def metUnder (disk : Disk) (bound : Nat) (here : Location) (name : FileName) :
    List (List FileName × Node) :=
  match disk.find? (here ++ [name]) with
  | none => []
  | some node =>
      ([name], node) ::
        if node = .directory && !isExcluded name.text then
          (entriesFrom disk bound (here ++ [name])).map fun (way, node) => (name :: way, node)
        else []

theorem entriesFrom_succ (bound : Nat) (here : Location) :
    entriesFrom disk (bound + 1) here = (disk.children here).flatMap (metUnder disk bound here) :=
  rfl

theorem mem_metUnder_iff {bound : Nat} {here : Location} {name : FileName} {node : Node} :
    (way, node) ∈ metUnder disk bound here name ↔ ∃ rest, way = name :: rest ∧
      (rest = [] ∧ disk.find? (here ++ [name]) = some node ∨
        disk.find? (here ++ [name]) = some .directory ∧ isExcluded name.text = false ∧
          (rest, node) ∈ entriesFrom disk bound (here ++ [name])) := by
  unfold metUnder
  cases found : disk.find? (here ++ [name]) with
  | none => simp
  | some first =>
      simp only [List.mem_cons, Prod.mk.injEq, Option.some.injEq]
      constructor
      · rintro (⟨rfl, rfl⟩ | below)
        · exact ⟨[], rfl, .inl ⟨rfl, rfl⟩⟩
        · split at below
          · rename_i looked
            rw [Bool.and_eq_true, decide_eq_true_eq, Bool.not_eq_true'] at looked
            obtain ⟨⟨rest, last⟩, further, same⟩ := List.mem_map.1 below
            cases same
            exact ⟨rest, rfl, .inr ⟨looked.1, looked.2, further⟩⟩
          · cases below
      · rintro ⟨rest, rfl, ⟨rfl, rfl⟩ | ⟨rfl, wanted, further⟩⟩
        · exact .inl ⟨rfl, rfl⟩
        · right
          rw [if_pos (by simp [wanted])]
          exact List.mem_map.2 ⟨_, further, rfl⟩

theorem mem_entriesFrom_succ_iff {bound : Nat} {here : Location} {node : Node} :
    (way, node) ∈ entriesFrom disk (bound + 1) here ↔
      ∃ name ∈ disk.children here, (way, node) ∈ metUnder disk bound here name := by
  rw [entriesFrom_succ, List.mem_flatMap]

theorem find?_of_mem_entriesFrom : ∀ {bound : Nat} {here : Location} {way : List FileName}
    {node : Node}, (way, node) ∈ entriesFrom disk bound here → disk.find? (here ++ way) = some node
  | 0, _, _, _, member => by cases member
  | bound + 1, here, way, node, member => by
      obtain ⟨name, _, met⟩ := mem_entriesFrom_succ_iff.1 member
      obtain ⟨rest, rfl, ⟨rfl, found⟩ | ⟨_, _, further⟩⟩ := mem_metUnder_iff.1 met
      · exact found
      · have later := find?_of_mem_entriesFrom further
        rwa [List.append_assoc] at later

theorem ne_nil_of_mem_entriesFrom {bound : Nat} {here : Location} {node : Node}
    (member : (way, node) ∈ entriesFrom disk bound here) : way ≠ [] := by
  cases bound with
  | zero => cases member
  | succ bound =>
      obtain ⟨name, _, met⟩ := mem_entriesFrom_succ_iff.1 member
      obtain ⟨rest, rfl, _⟩ := mem_metUnder_iff.1 met
      exact List.cons_ne_nil _ _

/-- The order of ways component by component: a way precedes those that go on from it, and those
that first differ from it in a greater name. -/
def Precedes : List FileName → List FileName → Prop :=
  List.Lex fun first second => Text.Before first.text second.text

theorem Precedes.ne {first second : List FileName} (ahead : Precedes first second) :
    first ≠ second := by
  rintro rfl
  exact List.lex_irrefl (fun _ before => before.ne rfl) first ahead

theorem Precedes.asymm {first second : List FileName} (ahead : Precedes first second) :
    ¬ Precedes second first :=
  List.lex_asymm Text.Before.asymm ahead

theorem increasing_entriesFrom : ∀ (bound : Nat) (here : Location),
    (entriesFrom disk bound here).Pairwise fun first second => Precedes first.1 second.1
  | 0, _ => .nil
  | bound + 1, here => by
      rw [entriesFrom_succ, List.pairwise_flatMap]
      constructor
      · intro name _
        unfold metUnder
        split
        · exact .nil
        · refine .cons ?_ ?_
          · intro entry member
            split at member
            · obtain ⟨⟨way, node⟩, further, rfl⟩ := List.mem_map.1 member
              obtain ⟨next, rest, rfl⟩ := List.exists_cons_of_ne_nil (ne_nil_of_mem_entriesFrom further)
              exact .cons .nil
            · cases member
          · split
            · exact List.pairwise_map.2 ((increasing_entriesFrom bound _).imp .cons)
            · exact .nil
      · refine (disk.increasing_children here).imp fun less entry member other member' => ?_
        obtain ⟨rest, starts, _⟩ := mem_metUnder_iff.1 member
        obtain ⟨rest', starts', _⟩ := mem_metUnder_iff.1 member'
        rw [starts, starts']
        exact .rel less

theorem ways_apart (bound : Nat) (here : Location) :
    (entriesFrom disk bound here).Pairwise fun first second => first.1 ≠ second.1 :=
  (increasing_entriesFrom bound here).imp Precedes.ne

theorem noNul_of_find? {location : Location} {node : Node} {name : FileName}
    (found : disk.find? location = some node) (member : name ∈ location) :
    name.text.contains '\x00' = false := by
  have fits := disk.fits_of_find? found name member
  unfold FileName.fits at fits
  rw [Bool.and_eq_true, Bool.not_eq_true'] at fits
  exact fits.2

theorem append_way_cons (start : Path) (name : FileName) (rest : List FileName) :
    start ++ (⟨.here, (name :: rest).map .down⟩ : Path) =
      start.child name ++ (⟨.here, rest.map .down⟩ : Path) := by
  simp [Path.append_here, Path.child]

theorem append_way_nil (start : Path) : start ++ (⟨.here, []⟩ : Path) = start := by
  simp [Path.append_here]

theorem place?_of_mem_entriesFrom : ∀ {bound : Nat} {start : Path} {here : Location}
    {way : List FileName} {node : Node}, disk.nodeAt? start = some .directory →
    disk.place? start = some here →
    (∀ entry ∈ entriesFrom disk bound here, ¬ disk.TooLong (start ++ ⟨.here, entry.1.map .down⟩)) →
    (way, node) ∈ entriesFrom disk bound here →
    disk.place? (start ++ ⟨.here, way.map .down⟩) = some (here ++ way)
  | 0, _, _, _, _, _, _, _, member => by cases member
  | bound + 1, start, here, way, node, inside, leads, short, member => by
      obtain ⟨name, listed, met⟩ := mem_entriesFrom_succ_iff.1 member
      obtain ⟨rest, rfl, below⟩ := mem_metUnder_iff.1 met
      have leads_child {first : Node} (found : disk.find? (here ++ [name]) = some first) :
          disk.place? (start.child name) = some (here ++ [name]) := by
        have first_met : ([name], first) ∈ metUnder disk bound here name :=
          mem_metUnder_iff.2 ⟨[], rfl, .inl ⟨rfl, found⟩⟩
        have short_child := short _ (mem_entriesFrom_succ_iff.2 ⟨name, listed, first_met⟩)
        rw [append_way_cons, List.map_nil, append_way_nil] at short_child
        obtain ⟨above, leads', there, _⟩ := Disk.locate_child inside short_child
          (noNul_of_find? found (List.mem_append_right _ (List.mem_singleton.2 rfl)))
        cases leads.symm.trans leads'
        exact there
      rw [append_way_cons]
      rcases below with ⟨rfl, found⟩ | ⟨found, wanted, further⟩
      · rw [List.map_nil, append_way_nil]
        exact leads_child found
      · have inside_child : disk.nodeAt? (start.child name) = some .directory :=
          Disk.nodeAt?_eq_some_iff.2 ⟨_, leads_child found, found⟩
        have short_below : ∀ entry ∈ entriesFrom disk bound (here ++ [name]),
            ¬ disk.TooLong (start.child name ++ ⟨.here, entry.1.map .down⟩) := by
          intro entry later
          rw [← append_way_cons]
          have met : (name :: entry.1, entry.2) ∈ metUnder disk bound here name :=
            mem_metUnder_iff.2 ⟨entry.1, rfl, .inr ⟨found, wanted, later⟩⟩
          exact short _ (mem_entriesFrom_succ_iff.2 ⟨name, listed, met⟩)
        rw [place?_of_mem_entriesFrom inside_child (leads_child found) short_below further,
          List.append_assoc]
        rfl

theorem below_of_directory {here : Location} (inside : disk.nodeAt? start = some .directory)
    (leads : disk.place? start = some here) :
    below disk start =
      ((entriesFrom disk (disk.depth + 1) here).forM fun entry =>
        discard (disk.isDirectory (start ++ ⟨.here, entry.1.map .down⟩))).map fun _ =>
          ((entriesFrom disk (disk.depth + 1) here).filter isTestEntry).map fun entry =>
            start ++ ⟨.here, entry.1.map .down⟩ := by
  unfold below
  rw [Disk.isDirectory_eq_true_iff.2 inside]
  simp only [bind, Except.bind, if_true, (Disk.place?_eq_some_iff.1 leads).2]
  cases (entriesFrom disk (disk.depth + 1) here).forM fun entry =>
    discard (disk.isDirectory (start ++ ⟨.here, entry.1.map .down⟩)) <;> rfl

theorem below_of_no_directory {answer : Bool} (asked : disk.isDirectory start = .ok answer)
    (outside : disk.nodeAt? start ≠ some .directory) : below disk start = .ok [] := by
  unfold below
  cases answer with
  | true => exact absurd (Disk.isDirectory_eq_true_iff.1 asked) outside
  | false =>
      rw [asked]
      rfl

theorem asked_returns_iff {entries : List (List FileName × Node)} :
    (∃ done, (entries.forM fun entry =>
      discard (disk.isDirectory (start ++ ⟨.here, entry.1.map .down⟩))) = .ok done) ↔
      ∀ entry ∈ entries, ¬ disk.TooLong (start ++ ⟨.here, entry.1.map .down⟩) := by
  rw [Asking.forM_returns_iff]
  refine forall_congr' fun entry => imp_congr_right fun _ => ?_
  rw [← Disk.isDirectory_returns_iff]
  cases disk.isDirectory (start ++ ⟨.here, entry.1.map .down⟩) <;>
    simp [discard, Functor.discard, Functor.mapConst, Except.map]

theorem cases_of_below {found : List Path} (h : below disk start = .ok found) :
    found = [] ∨ ∃ here, disk.nodeAt? start = some .directory ∧ disk.place? start = some here ∧
      (∀ entry ∈ entriesFrom disk (disk.depth + 1) here,
        ¬ disk.TooLong (start ++ ⟨.here, entry.1.map .down⟩)) ∧
      found = ((entriesFrom disk (disk.depth + 1) here).filter isTestEntry).map
        fun entry => start ++ ⟨.here, entry.1.map .down⟩ := by
  by_cases inside : disk.nodeAt? start = some .directory
  · obtain ⟨here, leads, _⟩ := Disk.nodeAt?_eq_some_iff.1 inside
    rw [below_of_directory inside leads] at h
    cases asked : (entriesFrom disk (disk.depth + 1) here).forM fun entry =>
        discard (disk.isDirectory (start ++ ⟨.here, entry.1.map .down⟩)) with
    | error e =>
        rw [asked] at h
        cases h
    | ok done =>
        rw [asked] at h
        exact .inr ⟨here, inside, leads, asked_returns_iff.1 ⟨done, asked⟩, (Except.ok.inj h).symm⟩
  · cases asked : disk.isDirectory start with
    | error e =>
        unfold below at h
        rw [asked] at h
        cases h
    | ok answer =>
        rw [below_of_no_directory asked inside] at h
        exact .inl (Except.ok.inj h).symm

theorem below_returns_iff :
    (∃ found, below disk start = .ok found) ↔ ¬ SearchStops disk start := by
  by_cases inside : disk.nodeAt? start = some .directory
  · obtain ⟨here, leads, _⟩ := Disk.nodeAt?_eq_some_iff.1 inside
    constructor
    · rintro ⟨found, ran⟩ stops
      rcases stops with long | ⟨_, leads', met, long⟩
      · exact Disk.not_tooLong_of_nodeAt? inside long
      · rw [below_of_directory inside leads] at ran
        cases leads.symm.trans leads'
        cases asked : (entriesFrom disk (disk.depth + 1) here).forM fun entry =>
            discard (disk.isDirectory (start ++ ⟨.here, entry.1.map .down⟩)) with
        | error e =>
            rw [asked] at ran
            cases ran
        | ok done => exact asked_returns_iff.1 ⟨done, asked⟩ _ met long
    · intro goes
      rw [below_of_directory inside leads]
      obtain ⟨done, ran⟩ := asked_returns_iff.2 fun entry met long => goes (.met inside leads met long)
      exact ⟨_, by rw [ran]; rfl⟩
  · by_cases long : disk.TooLong start
    · refine iff_of_false ?_ fun goes => goes (.start long)
      rintro ⟨found, ran⟩
      have refused : disk.isDirectory start = .error _ := Disk.test_of_tooLong _ long
      unfold below at ran
      rw [refused] at ran
      cases ran
    · obtain ⟨answer, asked⟩ := Disk.isDirectory_returns_iff.2 long
      refine iff_of_true ⟨[], below_of_no_directory asked inside⟩ ?_
      rintro (too_long | ⟨is_directory, _⟩)
      · exact long too_long
      · exact inside is_directory

theorem hasNul_append_down (h : start.hasNul = false)
    (fits : ∀ name ∈ way, name.text.contains '\x00' = false) :
    (start ++ (⟨.here, way.map .down⟩ : Path)).hasNul = false := by
  rw [Path.append_here, Path.hasNul, List.any_append, Bool.or_eq_false_iff]
  refine ⟨h, ?_⟩
  rw [List.any_map, List.any_eq_false]
  intro name member
  have clean := fits name member
  simpa [Step.text] using clean

theorem exists_way_of_mem_below {found : List Path} (h : below disk start = .ok found)
    (member : path ∈ found) : ∃ way : List FileName, path = start ++ ⟨.here, way.map .down⟩ ∧
      start.hasNul = false ∧ ∀ name ∈ way, name.text.contains '\x00' = false := by
  rcases cases_of_below h with rfl | ⟨here, inside, _, _, rfl⟩
  · cases member
  · obtain ⟨⟨way, node⟩, met, rfl⟩ := List.mem_map.1 member
    have stands := find?_of_mem_entriesFrom (List.mem_filter.1 met).1
    exact ⟨way, rfl, Disk.noNul_of_nodeAt? inside, fun name on_way =>
      noNul_of_find? stands (List.mem_append_right _ on_way)⟩

variable {root part file : Path} {testFiles : List Path}

theorem eq_of_find (h : find disk start (some root) = .ok testFiles) :
    ∃ found, below disk start = .ok found ∧ testFiles = found.map (·.below root) := by
  unfold find at h
  cases searched : below disk start with
  | error e =>
      rw [searched] at h
      cases h
  | ok found =>
      rw [searched] at h
      cases h
      exact ⟨found, rfl, rfl⟩

theorem append_below_way (root part : Path) (way : List FileName) :
    root ++ ((root ++ part) ++ (⟨.here, way.map .down⟩ : Path)).below root =
      (root ++ part) ++ (⟨.here, way.map .down⟩ : Path) := by
  rw [Path.append_assoc, Path.append_below_append]

theorem noNul_of_mem_find (h : find disk (root ++ part) (some root) = .ok testFiles)
    (member : file ∈ testFiles) : (root ++ file).hasNul = false := by
  obtain ⟨found, searched, rfl⟩ := eq_of_find h
  obtain ⟨path, there, rfl⟩ := List.mem_map.1 member
  obtain ⟨way, rfl, noNul, fits⟩ := exists_way_of_mem_below searched there
  rw [append_below_way]
  exact hasNul_append_down noNul fits

theorem exists_place_of_mem_find (h : find disk (root ++ part) (some root) = .ok testFiles)
    (member : file ∈ testFiles) : ∃ above name,
      disk.place? (root ++ file) = some (above ++ [name]) ∧ isTestName name.text = true := by
  obtain ⟨found, searched, rfl⟩ := eq_of_find h
  obtain ⟨path, there, rfl⟩ := List.mem_map.1 member
  rcases cases_of_below searched with rfl | ⟨here, inside, leads, short, rfl⟩
  · cases there
  · obtain ⟨⟨way, node⟩, met, rfl⟩ := List.mem_map.1 there
    obtain ⟨met, test⟩ := List.mem_filter.1 met
    have leads_way := place?_of_mem_entriesFrom inside leads short met
    rw [append_below_way, leads_way]
    rcases List.eq_nil_or_concat way with rfl | ⟨above, name, rfl⟩
    · exact absurd rfl (ne_nil_of_mem_entriesFrom met)
    · refine ⟨here ++ above, name, by simp, ?_⟩
      cases node with
      | directory => cases test
      | file bytes => simpa [isTestEntry] using test

theorem apart_of_find (h : find disk (root ++ part) (some root) = .ok testFiles) :
    testFiles.Pairwise fun first second =>
      disk.place? (root ++ first) ≠ disk.place? (root ++ second) := by
  obtain ⟨found, searched, rfl⟩ := eq_of_find h
  rcases cases_of_below searched with rfl | ⟨here, inside, leads, short, rfl⟩
  · exact .nil
  · rw [List.pairwise_map, List.pairwise_map]
    refine List.Pairwise.filter _ ((ways_apart _ here).imp_of_mem ?_)
    intro first second met met' apart same
    rw [append_below_way, append_below_way, place?_of_mem_entriesFrom inside leads short met,
      place?_of_mem_entriesFrom inside leads short met', Option.some.injEq] at same
    exact apart (List.append_cancel_left same)

end TestFile

end DiagnosticRepair
