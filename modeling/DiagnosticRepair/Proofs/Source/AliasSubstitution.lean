import DiagnosticRepair.Proofs.Source.AliasScan
import DiagnosticRepair.Proofs.Source.AliasTarget
import DiagnosticRepair.Proofs.Text.Cutting
import Mathlib.Data.List.Forall2

namespace DiagnosticRepair

namespace Alias

variable {relative : Text → Text} {entry : Text × Text} {table : List (Text × Text)}
  {line : Text} {steps : List Step} {here : Location} {testFile target root : Path}

/-- The new line has relative paths where the old one has its aliases first, and no other. -/
def Substituted (relative : Text → Text) (table : List (Text × Text)) (old new : Text) : Prop :=
  ∃ pieces : List Piece, original pieces = old ∧ result relative pieces = new ∧
    (pieces.filterMap Piece.entry?).Perm (contained table old) ∧
    ∀ before entry after, pieces = before ++ .replaced entry :: after →
      Text.FirstBehind (original before) entry.1 old

/-- Import lines have each of their aliases replaced once, and all other lines stay. -/
def Resolved (relative : Text → Text) (table : List (Text × Text)) (old new : Text) : Prop :=
  if isAliasImport old then
    Substituted relative table old new ∧
      ∀ entry ∈ table, Text.occurrences entry.1 new = Text.occurrences entry.1 old - 1
  else new = old

theorem resolved_resolveLine (proper : Proper table)
    (dotted : ∀ entry ∈ table, Dotted (relative entry.2)) (line : Text) :
    Resolved relative table line (resolveLine relative table line).line := by
  unfold Resolved resolveLine
  split
  · obtain ⟨pieces, scan, rfl⟩ := Scan.exists_original_eq proper line
    refine ⟨⟨pieces, rfl, ?_, scan.replaced_perm proper, fun _ _ _ => scan.firstBehind proper⟩, ?_⟩
    · exact (scan.line_foldl_step proper dotted rfl).symm
    · exact fun entry known => occurrences_foldl_step proper dotted known ⟨original pieces, []⟩
  · rfl

theorem changes_resolveLine (proper : Proper table)
    (dotted : ∀ entry ∈ table, Dotted (relative entry.2)) (line : Text) :
    (resolveLine relative table line).changes =
      if isAliasImport line then (contained table line).map (report relative) else [] := by
  unfold resolveLine
  split
  · exact changes_foldl_step proper dotted ⟨line, []⟩
  · rfl

theorem line_resolveLine_perm {table' : List (Text × Text)} (proper : Proper table)
    (dotted : ∀ entry ∈ table, Dotted (relative entry.2)) (order : table'.Perm table)
    (line : Text) :
    (resolveLine relative table' line).line = (resolveLine relative table line).line := by
  unfold resolveLine
  split
  · -- one scan serves both orders
    obtain ⟨pieces, scan, rfl⟩ := Scan.exists_original_eq proper line
    rw [scan.line_foldl_step proper dotted rfl, (scan.perm order.symm).line_foldl_step
      (proper.perm order) (fun entry known => dotted entry (order.mem_iff.1 known)) rfl]
  · rfl

theorem proper_aliases : Proper Conventions.aliases where
  nodup := by decide +kernel
  marked := by decide +kernel
  apart := by decide +kernel

theorem head?_specifierOf (steps : List Step) : (specifierOf steps).head? = some '.' := by
  unfold specifierOf
  simp only
  split
  · assumption
  · rfl

theorem mem_specifierOf {c : Char} (h : c ∈ specifierOf steps) :
    c = '.' ∨ c = '/' ∨ ∃ step ∈ steps, c ∈ step.text := by
  have written : c = '.' ∨ c = '/' ∨ c ∈ slashed (Path.text ⟨.here, steps⟩) := by
    unfold specifierOf at h
    simp only at h
    split at h
    · exact .inr (.inr h)
    · simpa only [List.mem_cons] using h
  rcases written with dot | slash | member
  · exact .inl dot
  · exact .inr (.inl slash)
  · rcases eq_slash_or_mem_of_mem_slashed member with slash | inside
    · exact .inr (.inl slash)
    · exact mem_text inside

theorem not_mem_specifierOf_wayTo {start goal : Location} {c : Char} (not_dot : c ≠ '.')
    (not_slash : c ≠ '/') (absent : ∀ name ∈ goal, c ∉ name.text) :
    c ∉ specifierOf (start.wayTo goal) := by
  intro member
  rcases mem_specifierOf member with dot | slash | ⟨step, on_way, within⟩
  · exact not_dot dot
  · exact not_slash slash
  · rcases Location.mem_wayTo on_way with rfl | ⟨name, inside, rfl⟩
    · exact not_dot (by simpa [Step.text] using within)
    · exact absent name inside within

theorem location_append (relative : target.isAbsolute = false) (root : Path) :
    (root ++ target).location here = (root.location here).follow target.steps := by
  rw [append_of_relative relative, Path.location, Path.location, Location.follow_append]
  rfl

theorem location_prefix_of_names {names : List FileName} (some_name : names ≠ [])
    (below : root ++ testFile = ⟨root.anchor, root.steps ++ names.map .down⟩) :
    root.location here <+: (root ++ testFile).parent.location here := by
  have above : (root ++ testFile).parent =
      ⟨root.anchor, root.steps ++ names.dropLast.map .down⟩ := by
    rw [below, Path.parent, List.dropLast_append_of_ne_nil (by simpa using some_name),
      ← List.map_dropLast]
  rw [above, Path.location, Path.location, Location.follow_append, Location.follow_down]
  exact List.prefix_append _ _

theorem conventional_names : ∀ entry ∈ Conventions.aliases,
    let names := Location.follow [] (Path.ofText entry.2).steps
    (Path.ofText entry.2).isAbsolute = false ∧
      (Path.ofText entry.2).steps = names.map .down ∧
      ∀ name ∈ names, '@' ∉ name.text ∧ '\n' ∉ name.text := by
  decide +kernel

theorem relativeTarget_of_below
    (below : root.location here <+: (root ++ testFile).parent.location here)
    (known : entry ∈ Conventions.aliases) :
    Dotted (relativeTarget here testFile (Path.ofText entry.2) root) ∧
      '\n' ∉ relativeTarget here testFile (Path.ofText entry.2) root := by
  obtain ⟨relative, straight, plain⟩ := conventional_names entry known
  obtain ⟨down, start⟩ := below
  have goal : (root ++ Path.ofText entry.2).location here =
      root.location here ++ Location.follow [] (Path.ofText entry.2).steps := by
    rw [location_append relative, straight, Location.follow_down, Location.follow_down,
      List.nil_append]
  -- the way leads up and then along names of the conventions only
  rw [relativeTarget_eq, goal, ← start, Location.wayTo_append]
  have unmarked := fun name inside => (plain name inside).1
  have unbroken := fun name inside => (plain name inside).2
  exact ⟨⟨head?_specifierOf _, not_mem_specifierOf_wayTo (by decide) (by decide) unmarked⟩,
    not_mem_specifierOf_wayTo (by decide) (by decide) unbroken⟩

theorem split_resolve (unbroken : ∀ entry ∈ table,
      '\n' ∉ relativeTarget here testFile (Path.ofText entry.2) root) (text : Text) :
    LineEnding.lf.split (resolve here text testFile root table).1 =
      (LineEnding.lf.split text).map fun line =>
        (resolveLine (fun target => relativeTarget here testFile (Path.ofText target) root) table
          line).line := by
  show LineEnding.lf.split (LineEnding.lf.join _) = _
  rw [List.map_map]
  refine LineEnding.split_join (by simpa using LineEnding.split_ne_nil _ _) ?_
  intro new member feed
  obtain ⟨line, split, rfl⟩ := List.mem_map.1 member
  exact unbroken_resolveLine unbroken (LineEnding.unbroken_of_mem_split split)
    (feed.subset (List.mem_singleton_self _))

theorem resolve_substitutes_at_once
    (below : root.location here <+: (root ++ testFile).parent.location here)
    (order : table.Perm Conventions.aliases) (text : Text) :
    let relative target := relativeTarget here testFile (Path.ofText target) root
    let resolved := resolve here text testFile root table
    resolved.1 = (resolve here text testFile root Conventions.aliases).1 ∧
      List.Forall₂ (Resolved relative table) (LineEnding.lf.split text)
        (LineEnding.lf.split resolved.1) ∧
      resolved.2 = (LineEnding.lf.split text).flatMap fun line =>
        if isAliasImport line then (contained table line).map (report relative) else [] := by
  intro relative resolved
  have proper := proper_aliases.perm order
  have written : ∀ entry ∈ Conventions.aliases,
      Dotted (relative entry.2) ∧ '\n' ∉ relative entry.2 :=
    fun entry known => relativeTarget_of_below below known
  have conventional : ∀ entry ∈ Conventions.aliases, Dotted (relative entry.2) :=
    fun entry known => (written entry known).1
  have dotted : ∀ entry ∈ table, Dotted (relative entry.2) :=
    fun entry known => conventional entry (order.mem_iff.1 known)
  have unbroken : ∀ entry ∈ table, '\n' ∉ relative entry.2 :=
    fun entry known => (written entry (order.mem_iff.1 known)).2
  refine ⟨?_, ?_, ?_⟩
  · show LineEnding.lf.join _ = LineEnding.lf.join _
    simp only [List.map_map]
    refine congrArg _ (List.map_congr_left fun line _ => ?_)
    exact line_resolveLine_perm proper_aliases conventional order line
  · have lines : LineEnding.lf.split resolved.1 =
        (LineEnding.lf.split text).map fun line => (resolveLine relative table line).line :=
      split_resolve unbroken text
    rw [lines, List.forall₂_map_right_iff]
    exact List.forall₂_same.2 fun line _ => resolved_resolveLine proper dotted line
  · show List.flatMap _ (List.map _ _) = _
    rw [List.flatMap_map]
    exact congrArg (List.flatMap · _) (funext (changes_resolveLine proper dotted))

theorem resolve_substitutes_at_once_nested :
    let root : Path := "/w/@/lib"
    let testFile : Path := "app/@/x.test.tsx"
    let table := Conventions.aliases.reverse
    let text : Text := "import a from '@/lib/@/hooks'; // @/lib\nconst b = '@/lib';\n"
    root.location [] <+: (root ++ testFile).parent.location [] ∧ table.Perm Conventions.aliases ∧
      (resolve [] text testFile root table).1 =
        "import a from '../_lib/../_hooks'; // @/lib\nconst b = '@/lib';\n" := by
  intro root testFile table text
  have split : root ++ testFile =
      ⟨root.anchor, root.steps ++ (Location.follow [] testFile.steps).map .down⟩ := by
    decide +kernel
  have below : root.location [] <+: (root ++ testFile).parent.location [] :=
    location_prefix_of_names (by decide +kernel) split
  have order : table.Perm Conventions.aliases := List.reverse_perm _
  have in_order : (resolve [] text testFile root Conventions.aliases).1 =
      "import a from '../_lib/../_hooks'; // @/lib\nconst b = '@/lib';\n" := by
    decide +kernel
  exact ⟨below, order, (resolve_substitutes_at_once below order text).1.trans in_order⟩

end Alias

end DiagnosticRepair
