import DiagnosticRepair.Proofs.Text.Occurrence
import DiagnosticRepair.Source.ImportBlock
import DiagnosticRepair.Source.UnusedNames
import DiagnosticRepair.Diagnostic.Remedy

namespace DiagnosticRepair

namespace Conventions

def statements : List Text :=
  (importsByName ++ importsByNamespace).map (·.2)

theorem mem_of_lookup {table : List (Text × Text)} {name statement : Text}
    (h : table.lookup name = some statement) : statement ∈ table.map (·.2) := by
  obtain ⟨before, after, split, _⟩ := List.lookup_eq_some_iff.1 h
  simp [split]

theorem mem_statements_of_statement? {diagnostic : Diagnostic} {statement : Text}
    (h : (Remedy.ofDiagnostic diagnostic).statement? = some statement) :
    statement ∈ statements := by
  have by_namespace : ∀ name, (Remedy.forNamespace name).statement? = some statement →
      statement ∈ statements := by
    intro name asked
    unfold Remedy.forNamespace at asked
    cases known : importOfNamespace? name with
    | none => simp [known, Remedy.statement?] at asked
    | some found =>
        simp only [known, Remedy.statement?, Option.some.injEq] at asked
        rw [statements, List.map_append]
        exact List.mem_append_right _ (mem_of_lookup (asked ▸ known))
  have by_name : ∀ name, (Remedy.forName name).statement? = some statement →
      statement ∈ statements := by
    intro name asked
    unfold Remedy.forName at asked
    cases known : importOf? name with
    | none => simp [known, Remedy.statement?] at asked
    | some found =>
        simp only [known, Remedy.statement?, Option.some.injEq] at asked
        rw [statements, List.map_append]
        exact List.mem_append_left _ (mem_of_lookup (asked ▸ known))
  unfold Remedy.ofDiagnostic Remedy.ofCode? at h
  split at h
  · cases named : Remedy.globalNamespace? diagnostic.message with
    | none => simp [named, Remedy.statement?] at h
    | some name => exact by_namespace name (by simpa [named] using h)
  · split at h
    · cases named : Remedy.missingName? diagnostic.message with
      | none => simp [named, Remedy.statement?] at h
      | some name => exact by_name name (by simpa [named] using h)
    · split at h
      · cases named : Remedy.unusedName? diagnostic.message with
        | none => simp [named, Remedy.statement?] at h
        | some name => simp [named, Remedy.statement?] at h
      · split at h <;> simp [Remedy.statement?] at h

end Conventions

namespace ImportBlock

open Conventions

variable {text s t : Text} {wanted : List Text}

theorem oneLine_needle (h : s ∈ statements) : (needle s).OneLine := by
  have all : ∀ s ∈ statements, (needle s).OneLine := by decide +kernel
  exact all s h

theorem oneLine_needle_of_oneLine (h : s.OneLine) : (needle s).OneLine := by
  intro c member
  unfold needle at member
  split at member
  · exact h c (List.dropLast_subset _ member)
  · exact h c member

theorem needle_infix_iff (hs : s ∈ statements) (ht : t ∈ statements) :
    needle s <:+: t ↔ s = t := by
  have all : ∀ s ∈ statements, ∀ t ∈ statements, Text.occursIn (needle s) t = decide (s = t) := by
    decide +kernel
  rw [← Text.occursIn_iff_infix, all s hs t ht, decide_eq_true_iff]

def extended (text : Text) (inserted : List Text) : Text :=
  let ending := LineEnding.ofText text
  let lines := ending.split text
  ending.join (lines.take (endIndex lines) ++ inserted ++ lines.drop (endIndex lines))

theorem insert_eq (text : Text) (wanted : List Text) :
    insert text wanted =
      (extended text (select (extended text) wanted), select (extended text) wanted) := rfl

theorem infix_extended_iff {piece : Text} (h : piece.OneLine) (inserted : List Text) :
    piece <:+: extended text inserted ↔ piece <:+: text ∨ ∃ t ∈ inserted, piece <:+: t := by
  by_cases empty : piece = []
  · subst empty
    exact iff_of_true List.nil_infix (.inl List.nil_infix)
  have lines := Text.infix_join_lines_iff h empty (LineEnding.ofText text)
  have before := lines ((LineEnding.ofText text).split text)
  rw [LineEnding.join_split] at before
  unfold extended
  rw [lines, before]
  generalize (LineEnding.ofText text).split text = all
  have cut : ∀ line, line ∈ all ↔
      line ∈ all.take (endIndex all) ∨ line ∈ all.drop (endIndex all) := by
    intro line
    rw [← List.mem_append, List.take_append_drop]
  simp only [List.mem_append, cut]
  constructor
  · rintro ⟨line, (ahead | new) | behind, found⟩
    · exact .inl ⟨line, .inl ahead, found⟩
    · exact .inr ⟨line, new, found⟩
    · exact .inl ⟨line, .inr behind, found⟩
  · rintro (⟨line, ahead | behind, found⟩ | ⟨line, new, found⟩)
    · exact ⟨line, .inl (.inl ahead), found⟩
    · exact ⟨line, .inr behind, found⟩
    · exact ⟨line, .inl (.inr new), found⟩

theorem select_eq_filter (known : ∀ s ∈ wanted, s ∈ statements) (nodup : wanted.Nodup) :
    select (extended text) wanted =
      wanted.filter fun s => !Text.occursIn (needle s) text := by
  suffices ∀ rest done : List Text, (∀ s ∈ done ++ rest, s ∈ statements) → (done ++ rest).Nodup →
      rest.foldl (fun inserted s =>
        if Text.occursIn (needle s) (extended text inserted) then inserted else inserted ++ [s])
        done = done ++ rest.filter fun s => !Text.occursIn (needle s) text from
    this wanted [] known nodup
  intro rest
  induction rest with
  | nil => simp
  | cons s rest ih =>
      intro done known nodup
      have new : s ∉ done := by
        intro old
        exact (List.nodup_append.1 nodup).2.2 s old s (List.mem_cons_self ..) rfl
      have mem : s ∈ statements := known s (by simp)
      have same : Text.occursIn (needle s) (extended text done) = Text.occursIn (needle s) text := by
        rw [Bool.eq_iff_iff, Text.occursIn_iff_infix, Text.occursIn_iff_infix,
          infix_extended_iff (oneLine_needle mem)]
        constructor
        · rintro (found | ⟨t, old, found⟩)
          · exact found
          · have := (needle_infix_iff mem (known t (List.mem_append_left _ old))).1 found
            exact absurd (this ▸ old) new
        · exact .inl
      rw [List.foldl_cons, same]
      cases present : Text.occursIn (needle s) text with
      | true =>
          have fewer : (done ++ rest).Sublist (done ++ s :: rest) :=
            (List.Sublist.refl done).append (List.sublist_cons_self s rest)
          rw [if_pos rfl, ih done (fun t member => known t (fewer.subset member))
            (nodup.sublist fewer), List.filter_cons_of_neg (by simp [present])]
      | false =>
          rw [if_neg (by simp), ih (done ++ [s]) (by simpa using known) (by simpa using nodup),
            List.filter_cons_of_pos (by simp [present]), List.append_assoc, List.singleton_append]

theorem mem_inserted_iff (known : ∀ s ∈ wanted, s ∈ statements) (nodup : wanted.Nodup) :
    s ∈ (insert text wanted).2 ↔ s ∈ wanted ∧ ¬ needle s <:+: text := by
  rw [insert_eq, select_eq_filter known nodup, List.mem_filter, ← Text.occursIn_iff_infix]
  simp

theorem infix_insert_iff (known : ∀ s ∈ wanted, s ∈ statements) (nodup : wanted.Nodup)
    (h : s ∈ statements) :
    needle s <:+: (insert text wanted).1 ↔ needle s <:+: text ∨ s ∈ wanted := by
  have inserted : (insert text wanted).1 = extended text (insert text wanted).2 := rfl
  rw [inserted, infix_extended_iff (oneLine_needle h)]
  constructor
  · rintro (found | ⟨t, new, found⟩)
    · exact .inl found
    · have asked := ((mem_inserted_iff known nodup).1 new).1
      exact .inr ((needle_infix_iff h (known t asked)).1 found ▸ asked)
  · rintro (found | asked)
    · exact .inl found
    · by_cases found : needle s <:+: text
      · exact .inl found
      · exact .inr ⟨s, (mem_inserted_iff known nodup).2 ⟨asked, found⟩, (needle_infix_iff h h).2 rfl⟩

theorem insert_ne_of_mem (known : ∀ s ∈ wanted, s ∈ statements) (nodup : wanted.Nodup)
    (h : s ∈ (insert text wanted).2) : (insert text wanted).1 ≠ text := by
  obtain ⟨asked, absent⟩ := (mem_inserted_iff known nodup).1 h
  intro same
  exact absent (same ▸ (infix_insert_iff known nodup (known s asked)).2 (.inr asked))

end ImportBlock

namespace UnusedNames

variable {name line changed text : Text} {lines lines' : List Text} {unused : UnusedName}
  {names : List UnusedName}

theorem length_underscoreFrom : ∀ {joined : Bool} {line changed : Text},
    underscoreFrom name joined line = some changed → changed.length = line.length + 1
  | joined, [], changed, h => by
      unfold underscoreFrom at h
      split at h
      · rw [← Option.some.inj h]
        rfl
      · cases h
  | joined, c :: rest, changed, h => by
      unfold underscoreFrom at h
      split at h
      · rw [← Option.some.inj h]
        rfl
      · obtain ⟨more, found, rfl⟩ := Option.map_eq_some_iff.1 h
        rw [List.length_cons, length_underscoreFrom found, List.length_cons]

theorem size_renameOn? (h : renameOn? lines unused = some lines') :
    lines'.flatten.length = lines.flatten.length + 1 := by
  unfold renameOn? at h
  split at h
  · cases h
  · split at h
    · cases h
    · rename_i line found
      obtain ⟨changed, renamed, rfl⟩ := Option.map_eq_some_iff.1 h
      obtain ⟨inside, rfl⟩ := List.getElem?_eq_some_iff.1 found
      have longer := length_underscoreFrom renamed
      generalize (unused.line - 1).toNat = index at *
      have split := List.take_append_drop index lines
      rw [List.drop_eq_getElem_cons inside] at split
      rw [List.set_eq_take_append_cons_drop, if_pos inside]
      conv => rhs; rw [← split]
      simp only [List.flatten_append, List.flatten_cons, List.length_append, longer]
      omega

theorem renamed_or_missed (text : Text) (names : List UnusedName) :
    ∀ unused ∈ names, unused ∈ (rename text names).renamed ∨ unused ∈ (rename text names).missed := by
  suffices ∀ (rest : List UnusedName) (state : Renaming), ∀ unused,
      unused ∈ state.renamed ∨ unused ∈ state.missed ∨ unused ∈ rest →
      unused ∈ (rest.foldl Renaming.step state).renamed ∨
        unused ∈ (rest.foldl Renaming.step state).missed from
    fun unused member => this names _ unused (.inr (.inr member))
  intro rest
  induction rest with
  | nil =>
      rintro state unused (renamed | missed | none)
      · exact .inl renamed
      · exact .inr missed
      · cases none
  | cons first rest ih =>
      intro state unused before
      rw [List.foldl_cons]
      apply ih
      unfold Renaming.step
      rcases before with renamed | missed | asked
      · cases renameOn? state.lines first <;> simp [renamed]
      · cases renameOn? state.lines first <;> simp [missed]
      · rcases List.mem_cons.1 asked with rfl | later
        · cases renameOn? state.lines unused <;> simp
        · cases renameOn? state.lines first <;> simp [later]

theorem rename_grows (text : Text) (names : List UnusedName) :
    (rename text names).lines.length = (LineEnding.lf.split text).length ∧
    (rename text names).lines.flatten.length =
      (LineEnding.lf.split text).flatten.length + (rename text names).renamed.length := by
  suffices ∀ (rest : List UnusedName) (state : Renaming),
      (rest.foldl Renaming.step state).lines.length = state.lines.length ∧
      (rest.foldl Renaming.step state).lines.flatten.length + state.renamed.length =
        state.lines.flatten.length + (rest.foldl Renaming.step state).renamed.length from
    this names ⟨LineEnding.lf.split text, [], []⟩
  intro rest
  induction rest with
  | nil => exact fun state => ⟨rfl, rfl⟩
  | cons first rest ih =>
      intro state
      obtain ⟨many, size⟩ := ih (state.step first)
      rw [List.foldl_cons]
      unfold Renaming.step at many size ⊢
      cases found : renameOn? state.lines first with
      | none =>
          simp only [found] at many size ⊢
          exact ⟨many, size⟩
      | some lines =>
          simp only [found, List.length_append, List.length_singleton] at many size ⊢
          rw [size_renameOn? found] at size
          exact ⟨many.trans (length_renameOn? found), by omega⟩

theorem text_rename_ne_of_mem (h : unused ∈ (rename text names).renamed) :
    (rename text names).text ≠ text := by
  intro same
  obtain ⟨many, size⟩ := rename_grows text names
  have before := LineEnding.lf.join_split text
  have lengths := Text.length_join LineEnding.lf.text (rename text names).lines
  have lengths' := Text.length_join LineEnding.lf.text (LineEnding.lf.split text)
  have renamed : 0 < (rename text names).renamed.length := List.length_pos_of_mem h
  have joined : Text.join LineEnding.lf.text (rename text names).lines = text := same
  have split : Text.join LineEnding.lf.text (LineEnding.lf.split text) = text := before
  rw [joined, many] at lengths
  rw [split] at lengths'
  omega

end UnusedNames

end DiagnosticRepair
