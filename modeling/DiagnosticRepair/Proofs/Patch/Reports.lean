import DiagnosticRepair.Proofs.Patch.NamedFiles
import DiagnosticRepair.Proofs.Source.Edits
import DiagnosticRepair.Proofs.Path.Reading

namespace DiagnosticRepair

namespace ImportBlock

open Conventions

theorem prefix_eq {s t : Text} (hs : s ∈ statements) (ht : t ∈ statements) (h : s <+: t) :
    s = t := by
  have all : ∀ s ∈ statements, ∀ t ∈ statements, s.isPrefixOf t = true → s = t := by
    decide +kernel
  exact all s hs t ht (List.isPrefixOf_iff_prefix.2 h)

end ImportBlock

namespace Stage

open Conventions ImportBlock

def renamedEntry (path : Path) (unused : UnusedName) : Entry :=
  ⟨.success, UnusedNames.description unused ++ " (" ++ path.text ++ ")"⟩

def missedEntry (file : Text) (unused : UnusedName) : Entry :=
  ⟨.warning, "No unused '" ++ unused.name ++ "' found on line " ++ Text.ofInt unused.line
    ++ " of " ++ file⟩

def addedEntry (path : Path) (statement : Text) : Entry :=
  ⟨.success, "Added import: " ++ statement ++ " (" ++ path.text ++ ")"⟩

variable {root path other : Path} {file text s t : Text} {names : List UnusedName}
  {unused : UnusedName} {wanted : List Text} {entry : Entry}

theorem addedEntry_inj (hs : s ∈ statements) (ht : t ∈ statements)
    (h : addedEntry path s = addedEntry other t) : path = other ∧ s = t := by
  have messages := congrArg Entry.message h
  simp only [addedEntry, List.append_assoc] at messages
  have tails := List.append_cancel_left messages
  have same : s = t := by
    rcases List.prefix_or_prefix_of_prefix
      (tails ▸ List.prefix_append s _) (List.prefix_append t _) with before | before
    · exact prefix_eq hs ht before
    · exact (prefix_eq ht hs before).symm
  subst same
  have paths := List.append_cancel_right (List.append_cancel_left (List.append_cancel_left tails))
  exact ⟨Path.text_inj paths, rfl⟩

theorem mem_editImportsReport (known : ∀ s ∈ wanted, s ∈ statements) (nodup : wanted.Nodup) :
    entry ∈ (editImportsReport path wanted text).entries ↔
      ∃ s ∈ wanted, ¬ needle s <:+: text ∧ entry = addedEntry path s := by
  have listed : (editImportsReport path wanted text).entries =
      (ImportBlock.insert text wanted).2.map (addedEntry path) := by
    have edited : editImports wanted text = ((ImportBlock.insert text wanted).1,
        (ImportBlock.insert text wanted).2.map ("Added import: ".toList ++ ·)) := rfl
    rw [editImportsReport, Mutation.ofEdit, edited]
    split
    · rename_i same
      cases inserted : (ImportBlock.insert text wanted).2 with
      | nil => rfl
      | cons s rest =>
          exact absurd same (insert_ne_of_mem known nodup (inserted ▸ List.mem_cons_self ..))
    · simp only [Mutation.outcome, List.map_map]
      rfl
  rw [listed, List.mem_map]
  constructor
  · rintro ⟨s, inserted, rfl⟩
    obtain ⟨asked, absent⟩ := (mem_inserted_iff known nodup).1 inserted
    exact ⟨s, asked, absent, rfl⟩
  · rintro ⟨s, asked, absent, rfl⟩
    exact ⟨s, (mem_inserted_iff known nodup).2 ⟨asked, absent⟩, rfl⟩

theorem mem_editUnusedNamesReport (path : Path) (file text : Text) (h : unused ∈ names) :
    renamedEntry path unused ∈ (editUnusedNamesReport path file names text).entries ∨
      missedEntry file unused ∈ (editUnusedNamesReport path file names text).entries := by
  unfold editUnusedNamesReport
  rw [Outcome.entries_add, List.mem_append, List.mem_append]
  rcases UnusedNames.renamed_or_missed text names unused h with renamed | missed
  · left; left
    have changed : ((editUnusedNames names) text).1 ≠ text := UnusedNames.text_rename_ne_of_mem renamed
    rw [Mutation.ofEdit, if_neg changed]
    simp only [Mutation.outcome, editUnusedNames, UnusedNames.Renaming.descriptions, List.map_map]
    exact List.mem_map.2 ⟨unused, renamed, rfl⟩
  · right; right
    exact List.mem_map.2 ⟨unused, missed, rfl⟩

theorem addedEntry_not_mem_editUnusedNamesReport :
    addedEntry path s ∉ (editUnusedNamesReport other file names text).entries := by
  unfold editUnusedNamesReport
  rw [Outcome.entries_add, List.mem_append]
  rintro (changed | missed)
  · unfold Mutation.ofEdit at changed
    split at changed
    · cases changed
    · simp only [Mutation.outcome, editUnusedNames, UnusedNames.Renaming.descriptions, List.map_map,
        List.mem_map] at changed
      obtain ⟨unused, _, same⟩ := changed
      have starts := congrArg (fun entry => entry.message.head?) same
      have first : (some 'R' : Option Char) = some 'A' := starts
      cases first
  · obtain ⟨unused, _, same⟩ := List.mem_map.1 missed
    cases congrArg Entry.category same

section imports

variable {groups : Grouped Text} {disk after : Disk} {outcomes : List Outcome}
  {location : Location}

def Conventional (groups : Grouped Text) : Prop :=
  ∀ group ∈ groups, (∀ s ∈ group.2, s ∈ statements) ∧ group.2.Nodup

theorem infix_of_trace (conventional : Conventional groups) (hs : s ∈ statements)
    (h : Trace (onGroup root (insertWork root)) groups disk outcomes after)
    (found : disk.find? location = some (.file (Utf8.encode text))) (present : needle s <:+: text) :
    ∃ text', after.find? location = some (.file (Utf8.encode text')) ∧ needle s <:+: text' := by
  induction h generalizing text with
  | nil => exact ⟨text, found, present⟩
  | @cons group rest disk middle after outcome outcomes ran _ ih =>
      have rest_conventional : Conventional rest := fun group member =>
        conventional group (List.mem_cons_of_mem _ member)
      obtain ⟨known, nodup⟩ := conventional group (List.mem_cons_self ..)
      have there := (onGroup_rewritten (insertWork_fixes root) ran).node location
      split at there
      · rw [found, Option.map_some, Node.mapText_file_encode] at there
        exact ih rest_conventional there ((infix_insert_iff known nodup hs).2 (.inl present))
      · exact ih rest_conventional (there.trans found) present

theorem exists_addedEntry_of_trace (conventional : Conventional groups) (hs : s ∈ statements)
    {text' : Text} (h : Trace (onGroup root (insertWork root)) groups disk outcomes after)
    (found : disk.find? location = some (.file (Utf8.encode text))) (absent : ¬ needle s <:+: text)
    (found' : after.find? location = some (.file (Utf8.encode text')))
    (present : needle s <:+: text') :
    ∃ outcome ∈ outcomes, ∃ path, disk.place? (root ++ path) = some location ∧
      addedEntry path s ∈ outcome.entries := by
  induction h generalizing text with
  | nil =>
      rw [found] at found'
      cases Utf8.encode_inj.1 (Node.file.inj (Option.some.inj found'))
      exact absurd present absent
  | @cons group rest disk middle after outcome outcomes ran _ ih =>
      have rest_conventional : Conventional rest := fun group member =>
        conventional group (List.mem_cons_of_mem _ member)
      obtain ⟨known, nodup⟩ := conventional group (List.mem_cons_self ..)
      have rewritten := onGroup_rewritten (insertWork_fixes root) ran
      have there := rewritten.node location
      have later : ∀ {text}, middle.find? location = some (.file (Utf8.encode text)) →
          ¬ needle s <:+: text → ∃ chosen ∈ outcome :: outcomes, ∃ path,
            disk.place? (root ++ path) = some location ∧ addedEntry path s ∈ chosen.entries := by
        intro text foundThere absentThere
        obtain ⟨chosen, member, path, leads, reported⟩ :=
          ih rest_conventional foundThere absentThere found'
        rw [rewritten.sameButTexts.place?_eq] at leads
        exact ⟨chosen, List.mem_cons_of_mem _ member, path, leads, reported⟩
      split at there
      · rename_i leads
        rw [found, Option.map_some, Node.mapText_file_encode] at there
        by_cases now : needle s <:+: (ImportBlock.insert text group.2).1
        · have asked := ((infix_insert_iff known nodup hs).1 now).resolve_left absent
          have read : disk.text? (named root group.1) = some text := by
            rw [Disk.text?_eq_bind, Disk.nodeAt?_eq_some_iff.2 ⟨location, leads, found⟩]
            exact Node.text?_eq_some_iff.2 rfl
          rcases onGroup_outcome (insertWork_fixes root) (.refl disk) ran with
            ⟨gone, _⟩ | ⟨unread, _⟩ | ⟨text'', read', rfl⟩
          · have stands := Disk.nodeAt?_eq_some_iff.2 ⟨location, leads, found⟩
            have here : disk.pathExists (named root group.1) = .ok true :=
              Disk.test_eq_true_iff.2 ⟨_, stands, rfl⟩
            rw [here] at gone
            cases gone
          · rw [read] at unread
            cases unread
          · rw [read] at read'
            cases read'
            exact ⟨_, List.mem_cons_self .., Path.ofText group.1, leads,
              (mem_editImportsReport known nodup).2 ⟨s, asked, absent, rfl⟩⟩
        · exact later there now
      · exact later (there.trans found) absent

theorem not_infix_of_addedEntry (conventional : Conventional groups) (hs : s ∈ statements)
    (h : Trace (onGroup root (insertWork root)) groups disk outcomes after) {outcome : Outcome}
    (member : outcome ∈ outcomes) (reported : addedEntry path s ∈ outcome.entries)
    (leads : disk.place? (root ++ path) = some location)
    (found : disk.find? location = some (.file (Utf8.encode text))) : ¬ needle s <:+: text := by
  intro present
  obtain ⟨before, first, middle, group, last, early, inside, asked, ran⟩ :=
    h.exists_of_mem_outcomes member
  obtain ⟨known, nodup⟩ := conventional group asked
  have same := trace_sameButTexts (insertWork_fixes root) early
  rcases onGroup_outcome (insertWork_fixes root) same ran with
    ⟨_, rfl⟩ | ⟨_, reason, rfl⟩ | ⟨text', read, rfl⟩
  · cases congrArg Entry.category (List.mem_singleton.1 reported)
  · cases congrArg Entry.category (List.mem_singleton.1 reported)
  · obtain ⟨t, wanted, absent, equal⟩ := (mem_editImportsReport known nodup).1 reported
    obtain ⟨rfl, rfl⟩ := addedEntry_inj hs (known t wanted) equal
    obtain ⟨text'', found'', present''⟩ := infix_of_trace
      (fun group member => conventional group (inside group member)) hs early found present
    have stands : middle.nodeAt? (named root group.1) = some (.file (Utf8.encode text'')) :=
      Disk.nodeAt?_eq_some_iff.2 ⟨location, (same.place?_eq _).trans leads, found''⟩
    rw [Disk.text?_eq_bind, stands, Option.bind_some, Node.text?_eq_some_iff.2 rfl] at read
    cases read
    exact absent present''

end imports

end Stage

end DiagnosticRepair
