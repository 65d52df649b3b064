import DiagnosticRepair.Proofs.Source.Edits
import DiagnosticRepair.Proofs.Text.Cutting

namespace DiagnosticRepair

namespace Text

inductive Underscored : Nat → Text → Text → Prop
  | nil : Underscored 0 [] []
  | kept {n : Nat} {old new : Text} (c : Char) (rest : Underscored n old new) :
      Underscored n (c :: old) (c :: new)
  | added {n : Nat} {old new : Text} (rest : Underscored n old new) :
      Underscored (n + 1) old ('_' :: new)

namespace Underscored

variable {n m : Nat} {old new newer : Text}

theorem refl (text : Text) : Underscored 0 text text := by
  induction text with
  | nil => exact .nil
  | cons c rest ih => exact .kept c ih

theorem one (front back : Text) : Underscored 1 (front ++ back) (front ++ '_' :: back) := by
  induction front with
  | nil => exact .added (refl back)
  | cons c rest ih => exact .kept c ih

theorem eq_of_zero (h : Underscored 0 old new) : new = old := by
  generalize zero : 0 = n at h
  induction h with
  | nil => rfl
  | kept c rest ih => rw [ih zero]
  | added rest ih => cases zero

theorem trans (h : Underscored n old new) (h' : Underscored m new newer) :
    Underscored (n + m) old newer := by
  induction h' generalizing n old with
  | nil => exact h
  | added rest ih => exact .added (ih h)
  | kept c rest ih =>
      cases h with
      | kept _ h => exact .kept c (ih h)
      | @added n _ _ h =>
          rw [Nat.add_right_comm]
          exact .added (ih h)

end Underscored

theorem exists_join_around (separator : Text) (above below : List Text) :
    ∃ front back, ∀ piece, join separator (above ++ piece :: below) = front ++ (piece ++ back) := by
  induction above with
  | nil =>
      cases below with
      | nil => exact ⟨[], [], fun piece => by simp [join_singleton]⟩
      | cons next rest =>
          exact ⟨[], separator ++ join separator (next :: rest), fun piece => by
            rw [List.nil_append, join_cons_cons, List.append_assoc, List.nil_append]⟩
  | cons first above ih =>
      obtain ⟨front, back, around⟩ := ih
      refine ⟨first ++ separator ++ front, back, fun piece => ?_⟩
      have later := around piece
      cases above with
      | nil =>
          rw [List.nil_append] at later
          rw [List.singleton_append, join_cons_cons, later, List.append_assoc (first ++ separator)]
      | cons second above =>
          rw [List.cons_append] at later
          rw [List.cons_append, List.cons_append, join_cons_cons, later,
            List.append_assoc (first ++ separator)]

end Text

namespace UnusedNames

variable {name line changed front back : Text} {lines next above below : List Text}
  {unused : UnusedName} {names : List UnusedName} {result : Renaming}

/-- The name stands on the line between `front` and `back`, and neither goes on with it as a longer
name. -/
structure Word (name line front back : Text) : Prop where
  cut : line = front ++ (name ++ back)
  free_before : front.getLast?.any Text.isNameChar = false
  free_behind : back.head?.any Text.isNameChar = false

structure FirstWord (name line front back : Text) : Prop extends Word name line front back where
  first : ∀ front' back', Word name line front' back' → front.length ≤ front'.length

theorem FirstWord.unique {front' back' : Text} (h : FirstWord name line front back)
    (h' : FirstWord name line front' back') : front = front' ∧ back = back' := by
  have same := Nat.le_antisymm (h.first _ _ h'.toWord) (h'.first _ _ h.toWord)
  obtain ⟨rfl, behind⟩ := List.append_inj (h.cut.symm.trans h'.cut) same
  exact ⟨rfl, List.append_cancel_left behind⟩

theorem standsAt_iff {text : Text} : standsAt name text = true ↔
    ∃ back, text = name ++ back ∧ back.head?.any Text.isNameChar = false := by
  unfold standsAt
  rw [Bool.and_eq_true, Bool.not_eq_true', List.isPrefixOf_iff_prefix]
  constructor
  · rintro ⟨⟨back, rfl⟩, free⟩
    exact ⟨back, rfl, by rwa [List.drop_left] at free⟩
  · rintro ⟨back, rfl, free⟩
    exact ⟨⟨back, rfl⟩, by rwa [List.drop_left]⟩

theorem underscoreFrom_eq (name : Text) (joined : Bool) (text : Text) :
    underscoreFrom name joined text =
      if (!joined && standsAt name text) = true then some ('_' :: text)
      else text.head?.bind fun c =>
        (underscoreFrom name (Text.isNameChar c) text.tail).map (c :: ·) := by
  cases text with
  | nil =>
      have here : standsAt name [] = name.isEmpty := by cases name <;> rfl
      rw [underscoreFrom, here]
      rfl
  | cons c rest => rfl

theorem word_here_iff {text : Text} : (∃ back, Word name (front ++ text) front back) ↔
    (!front.getLast?.any Text.isNameChar && standsAt name text) = true := by
  rw [Bool.and_eq_true, Bool.not_eq_true', standsAt_iff]
  constructor
  · rintro ⟨back, cut, free_before, free_behind⟩
    exact ⟨free_before, back, List.append_cancel_left cut, free_behind⟩
  · rintro ⟨free_before, back, rfl, free_behind⟩
    exact ⟨back, rfl, free_before, free_behind⟩

theorem underscoreFrom_cases (front line : Text)
    (passed : ∀ front' back, Word name (front ++ line) front' back → front.length ≤ front'.length) :
    (∃ changed front' back, underscoreFrom name (front.getLast?.any Text.isNameChar) line =
        some changed ∧ FirstWord name (front ++ line) front' back ∧
        front ++ changed = front' ++ '_' :: (name ++ back)) ∨
      underscoreFrom name (front.getLast?.any Text.isNameChar) line = none ∧
        ∀ front' back, ¬ Word name (front ++ line) front' back := by
  induction line generalizing front with
  | nil =>
      rw [underscoreFrom_eq]
      by_cases here : (!front.getLast?.any Text.isNameChar && standsAt name []) = true
      · obtain ⟨back, word⟩ := word_here_iff.2 here
        have cut := List.append_cancel_left word.cut
        exact .inl ⟨_, front, back, if_pos here, ⟨word, passed⟩, by rw [← cut]⟩
      · refine .inr ⟨if_neg here, fun front' back word => here (word_here_iff.1 ⟨back, ?_⟩)⟩
        have lengths := congrArg List.length word.cut
        have whole : front.length = front'.length := by
          have := passed front' back word
          simp only [List.length_append, List.length_nil] at lengths
          omega
        obtain ⟨rfl, _⟩ := List.append_inj word.cut whole
        exact word
  | cons c rest ih =>
      rw [underscoreFrom_eq]
      by_cases here : (!front.getLast?.any Text.isNameChar && standsAt name (c :: rest)) = true
      · obtain ⟨back, word⟩ := word_here_iff.2 here
        have cut := List.append_cancel_left word.cut
        exact .inl ⟨_, front, back, if_pos here, ⟨word, passed⟩, by rw [cut]⟩
      · have later := ih (front ++ [c])
        rw [List.append_assoc, List.singleton_append, List.getLast?_concat] at later
        rw [if_neg here]
        have not_here : ∀ front' back, Word name (front ++ c :: rest) front' back →
            (front ++ [c]).length ≤ front'.length := by
          intro front' back word
          rcases Nat.lt_or_eq_of_le (passed front' back word) with longer | same
          · rw [List.length_append]
            exact longer
          · obtain ⟨rfl, _⟩ := List.append_inj word.cut same
            exact absurd (word_here_iff.1 ⟨back, word⟩) here
        rcases later not_here with ⟨changed, front', back, found, first, same⟩ | ⟨missing, absent⟩
        · refine .inl ⟨c :: changed, front', back, ?_, first, by simpa using same⟩
          rw [List.head?_cons, Option.bind_some, List.tail_cons]
          exact Option.map_eq_some_iff.2 ⟨changed, found, rfl⟩
        · refine .inr ⟨?_, absent⟩
          rw [List.head?_cons, Option.bind_some, List.tail_cons]
          exact Option.map_eq_none_iff.2 missing

theorem underscore?_cases (name line : Text) :
    (∃ front back, underscore? name line = some (front ++ '_' :: (name ++ back)) ∧
        FirstWord name line front back) ∨
      underscore? name line = none ∧ ∀ front back, ¬ Word name line front back := by
  rcases @underscoreFrom_cases name [] line (fun _ _ _ => Nat.zero_le _) with
    ⟨changed, front, back, found, first, rfl⟩ | missing
  · exact .inl ⟨front, back, found, first⟩
  · exact .inr missing

theorem underscore?_eq_some_iff : underscore? name line = some changed ↔
    ∃ front back, FirstWord name line front back ∧ changed = front ++ '_' :: (name ++ back) := by
  constructor
  · intro found
    rcases underscore?_cases name line with ⟨front, back, there, first⟩ | ⟨missing, _⟩
    · exact ⟨front, back, first, Option.some.inj (found.symm.trans there)⟩
    · rw [missing] at found
      cases found
  · rintro ⟨front, back, first, rfl⟩
    rcases underscore?_cases name line with ⟨front', back', found, first'⟩ | ⟨_, absent⟩
    · obtain ⟨rfl, rfl⟩ := first.unique first'
      exact found
    · exact absurd first.toWord (absent front back)

theorem underscore?_eq_none_iff : underscore? name line = none ↔
    ∀ front back, ¬ Word name line front back := by
  constructor
  · intro missing
    rcases underscore?_cases name line with ⟨_, _, found, _⟩ | ⟨_, absent⟩
    · rw [found] at missing
      cases missing
    · exact absent
  · intro absent
    rcases underscore?_cases name line with ⟨front, back, _, first⟩ | ⟨missing, _⟩
    · exact absurd first.toWord (absent front back)
    · exact missing

inductive Renamed : List Text → UnusedName → List Text → Prop
  | mk {above below : List Text} {line front back : Text} {unused : UnusedName}
      (declared : unused.line = above.length + 1) (first : FirstWord unused.name line front back) :
      Renamed (above ++ line :: below) unused
        (above ++ (front ++ '_' :: (unused.name ++ back)) :: below)

inductive Missed : List Text → UnusedName → Prop
  | outside {lines : List Text} {unused : UnusedName}
      (far : unused.line < 1 ∨ lines.length < unused.line) : Missed lines unused
  | absent {above below : List Text} {line : Text} {unused : UnusedName}
      (declared : unused.line = above.length + 1)
      (absent : ∀ front back, ¬ Word unused.name line front back) :
      Missed (above ++ line :: below) unused

theorem getElem?_length (above : List Text) (line : Text) (below : List Text) :
    (above ++ line :: below)[above.length]? = some line := by
  rw [List.getElem?_append_right (Nat.le_refl _), Nat.sub_self, List.getElem?_cons_zero]

theorem outside_or_declared (lines : List Text) (unused : UnusedName) :
    (unused.line < 1 ∨ lines.length < unused.line) ∨
      ∃ above line below, lines = above ++ line :: below ∧ unused.line = above.length + 1 := by
  by_cases far : unused.line < 1 ∨ lines.length < unused.line
  · exact .inl far
  · have inside : (unused.line - 1).toNat < lines.length := by omega
    refine .inr ⟨lines.take (unused.line - 1).toNat, lines[(unused.line - 1).toNat],
      lines.drop ((unused.line - 1).toNat + 1), ?_, ?_⟩
    · rw [← List.drop_eq_getElem_cons inside, List.take_append_drop]
    · rw [List.length_take_of_le (Nat.le_of_lt inside)]
      omega

theorem renameOn?_of_outside (far : unused.line < 1 ∨ lines.length < unused.line) :
    renameOn? lines unused = none := by
  unfold renameOn?
  split
  · rfl
  · have missing : lines[(unused.line - 1).toNat]? = none := List.getElem?_eq_none (by omega)
    rw [missing]

theorem renameOn?_of_declared (declared : unused.line = above.length + 1) (line : Text)
    (below : List Text) : renameOn? (above ++ line :: below) unused =
      (underscore? unused.name line).map fun changed => above ++ changed :: below := by
  have index : (unused.line - 1).toNat = above.length := by omega
  unfold renameOn?
  rw [if_neg (by omega), index, getElem?_length]
  simp only [List.set_append_right above.length _ (Nat.le_refl _), Nat.sub_self, List.set_cons_zero]

theorem renameOn?_eq_some_iff : renameOn? lines unused = some next ↔ Renamed lines unused next := by
  constructor
  · intro found
    rcases outside_or_declared lines unused with far | ⟨above, line, below, rfl, declared⟩
    · rw [renameOn?_of_outside far] at found
      cases found
    · rw [renameOn?_of_declared declared] at found
      obtain ⟨changed, there, rfl⟩ := Option.map_eq_some_iff.1 found
      obtain ⟨front, back, first, rfl⟩ := underscore?_eq_some_iff.1 there
      exact .mk declared first
  · rintro ⟨declared, first⟩
    rw [renameOn?_of_declared declared, underscore?_eq_some_iff.2 ⟨_, _, first, rfl⟩]
    rfl

theorem renameOn?_eq_none_iff : renameOn? lines unused = none ↔ Missed lines unused := by
  constructor
  · intro missing
    rcases outside_or_declared lines unused with far | ⟨above, line, below, rfl, declared⟩
    · exact .outside far
    · rw [renameOn?_of_declared declared, Option.map_eq_none_iff] at missing
      exact .absent declared (underscore?_eq_none_iff.1 missing)
  · intro missed
    cases missed with
    | outside far => exact renameOn?_of_outside far
    | absent declared absent =>
        rw [renameOn?_of_declared declared, underscore?_eq_none_iff.2 absent]
        rfl

/-- `Run lines names result`: the names, one after the other, are renamed on what the earlier ones
have left of the lines, or missed there. -/
inductive Run : List Text → List UnusedName → Renaming → Prop
  | nil (lines : List Text) : Run lines [] ⟨lines, [], []⟩
  | rename {lines next last : List Text} {unused : UnusedName}
      {rest renamed missed : List UnusedName} (here : Renamed lines unused next)
      (later : Run next rest ⟨last, renamed, missed⟩) :
      Run lines (unused :: rest) ⟨last, unused :: renamed, missed⟩
  | miss {lines last : List Text} {unused : UnusedName} {rest renamed missed : List UnusedName}
      (here : Missed lines unused) (later : Run lines rest ⟨last, renamed, missed⟩) :
      Run lines (unused :: rest) ⟨last, renamed, unused :: missed⟩

theorem exists_run (lines : List Text) (names : List UnusedName) :
    ∃ result, Run lines names result := by
  induction names generalizing lines with
  | nil => exact ⟨_, .nil lines⟩
  | cons unused rest ih =>
      cases found : renameOn? lines unused with
      | none =>
          obtain ⟨_, later⟩ := ih lines
          exact ⟨_, .miss (renameOn?_eq_none_iff.1 found) later⟩
      | some next =>
          obtain ⟨_, later⟩ := ih next
          exact ⟨_, .rename (renameOn?_eq_some_iff.1 found) later⟩

theorem Run.foldl_eq (h : Run lines names result) (renamed missed : List UnusedName) :
    names.foldl Renaming.step ⟨lines, renamed, missed⟩ =
      ⟨result.lines, renamed ++ result.renamed, missed ++ result.missed⟩ := by
  induction h generalizing renamed missed with
  | nil lines => simp
  | @rename _ _ _ unused _ _ _ here later ih =>
      rw [List.foldl_cons, Renaming.step, renameOn?_eq_some_iff.2 here]
      simpa using ih (renamed ++ [unused]) missed
  | @miss _ _ unused _ _ _ here later ih =>
      rw [List.foldl_cons, Renaming.step, renameOn?_eq_none_iff.2 here]
      simpa using ih renamed (missed ++ [unused])

theorem run_iff {text : Text} :
    Run (LineEnding.lf.split text) names result ↔ result = rename text names := by
  have computed {result : Renaming} (h : Run (LineEnding.lf.split text) names result) :
      result = rename text names := (h.foldl_eq [] []).symm
  constructor
  · exact computed
  · rintro rfl
    obtain ⟨result, h⟩ := exists_run (LineEnding.lf.split text) names
    rwa [← computed h]

theorem Run.perm (h : Run lines names result) : (result.renamed ++ result.missed).Perm names := by
  induction h with
  | nil lines => exact .nil
  | rename here later ih => exact ih.cons _
  | miss here later ih => exact List.perm_middle.trans (ih.cons _)

theorem Renamed.unbroken (h : Renamed lines unused next) (unbroken : ∀ line ∈ lines, '\n' ∉ line) :
    ∀ line ∈ next, '\n' ∉ line := by
  obtain ⟨declared, first⟩ := h
  intro line member
  rcases List.mem_append.1 member with old | member
  · exact unbroken line (List.mem_append_left _ old)
  · rcases List.mem_cons.1 member with rfl | old
    · have whole := unbroken _ (List.mem_append_right _ (List.mem_cons_self ..))
      rw [first.cut] at whole
      simpa using whole
    · exact unbroken line (by simp [old])

theorem Run.unbroken (h : Run lines names result) (unbroken : ∀ line ∈ lines, '\n' ∉ line) :
    ∀ line ∈ result.lines, '\n' ∉ line := by
  induction h with
  | nil lines => exact unbroken
  | rename here later ih => exact ih (here.unbroken unbroken)
  | miss here later ih => exact ih unbroken

theorem Renamed.underscored (h : Renamed lines unused next) (separator : Text) :
    Text.Underscored 1 (Text.join separator lines) (Text.join separator next) := by
  obtain @⟨above, below, line, front, back, _, declared, first⟩ := h
  obtain ⟨before, behind, around⟩ := Text.exists_join_around separator above below
  have inserted := Text.Underscored.one (before ++ front) (unused.name ++ back ++ behind)
  rw [around, around, first.cut]
  simpa using inserted

theorem Run.underscored (h : Run lines names result) (separator : Text) :
    Text.Underscored result.renamed.length (Text.join separator lines)
      (Text.join separator result.lines) := by
  induction h with
  | nil lines => exact .refl _
  | rename here later ih =>
      rw [List.length_cons, Nat.add_comm]
      exact (here.underscored separator).trans ih
  | miss here later ih => exact ih

theorem Renamed.underscored_line (h : Renamed lines unused next) {i : Nat}
    (there : lines[i]? = some line) : ∃ line', next[i]? = some line' ∧
      Text.Underscored (if unused.line = i + 1 then 1 else 0) line line' := by
  obtain @⟨above, below, old, front, back, _, declared, first⟩ := h
  by_cases here : above.length = i
  · subst here
    rw [getElem?_length] at there ⊢
    rw [if_pos declared, ← Option.some.inj there, first.cut]
    exact ⟨_, rfl, .one front (unused.name ++ back)⟩
  · rw [if_neg (by omega)]
    refine ⟨line, ?_, .refl line⟩
    rcases Nat.lt_or_ge i above.length with ahead | behind
    · rwa [List.getElem?_append_left ahead] at there ⊢
    · rw [List.getElem?_append_right behind] at there ⊢
      obtain ⟨k, more⟩ : ∃ k, i - above.length = k + 1 := ⟨i - above.length - 1, by omega⟩
      rwa [more, List.getElem?_cons_succ] at there ⊢

theorem Run.underscored_line (h : Run lines names result) {i : Nat}
    (there : lines[i]? = some line) :
    ∃ line', result.lines[i]? = some line' ∧
      Text.Underscored (result.renamed.countP (·.line = (i : Int) + 1)) line line' := by
  induction h generalizing line with
  | nil lines => exact ⟨line, there, .refl line⟩
  | @rename _ _ _ unused _ _ _ here later ih =>
      obtain ⟨between, there', one⟩ := here.underscored_line there
      obtain ⟨line', last, more⟩ := ih there'
      refine ⟨line', last, ?_⟩
      have both := one.trans more
      rw [List.countP_cons, Nat.add_comm]
      simpa only [decide_eq_true_eq] using both
  | miss here later ih => exact ih there

theorem split_text_rename (text : Text) (names : List UnusedName) :
    LineEnding.lf.split (rename text names).text = (rename text names).lines := by
  have run : Run (LineEnding.lf.split text) names (rename text names) := run_iff.2 rfl
  have unbroken := run.unbroken fun line => LineEnding.unbroken_of_mem_split
  have some_line := List.length_pos_iff.2 (LineEnding.lf.split_ne_nil text)
  rw [← (rename_grows text names).1] at some_line
  refine LineEnding.split_join (List.length_pos_iff.1 some_line) fun line member broken => ?_
  exact unbroken line member (broken.subset (List.mem_cons_self ..))

theorem rename_is_confined (text : Text) (names : List UnusedName) :
    let result := rename text names
    (∀ other, Run (LineEnding.lf.split text) names other ↔ other = result) ∧
    (result.renamed ++ result.missed).Perm names ∧
    LineEnding.lf.split result.text = result.lines ∧
    result.lines.length = (LineEnding.lf.split text).length ∧
    Text.Underscored result.renamed.length text result.text ∧
    ∀ (i : Nat) (line : Text), (LineEnding.lf.split text)[i]? = some line →
      ∃ line', result.lines[i]? = some line' ∧
        Text.Underscored (result.renamed.countP (·.line = (i : Int) + 1)) line line' ∧
        ((∀ unused ∈ result.renamed, unused.line ≠ i + 1) → line' = line) := by
  intro result
  have run : Run (LineEnding.lf.split text) names result := run_iff.2 rfl
  refine ⟨fun _ => run_iff, run.perm, split_text_rename text names, (rename_grows text names).1,
    ?_, fun i line there => ?_⟩
  · have whole := run.underscored LineEnding.lf.text
    have joined : Text.join LineEnding.lf.text (LineEnding.lf.split text) = text :=
      LineEnding.lf.join_split text
    rwa [joined] at whole
  · obtain ⟨line', last, underscored⟩ := run.underscored_line there
    refine ⟨line', last, underscored, fun elsewhere => ?_⟩
    rw [List.countP_eq_zero.2 (by simpa using elsewhere)] at underscored
    exact underscored.eq_of_zero

end UnusedNames

end DiagnosticRepair
