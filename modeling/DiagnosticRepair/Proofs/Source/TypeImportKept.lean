import DiagnosticRepair.Proofs.Source.ImportedNames
import DiagnosticRepair.Proofs.Source.TypeImport

namespace DiagnosticRepair

namespace LibraryImport

theorem mem_trim_or {c : Char} {text : Text} (member : c ∈ text) :
    c ∈ Text.trim text ∨ Text.isBlank c = true := by
  obtain ⟨blanks, blank, split⟩ := Text.exists_trimStart text
  obtain ⟨blanks', blank', split'⟩ := Text.exists_dropEndWhile Text.isBlank (Text.trimStart text)
  rw [split, split', List.mem_append, List.mem_append] at member
  rcases member with before | inside | behind
  · exact .inr (List.all_eq_true.1 blank c before)
  · exact .inl inside
  · exact .inr (List.all_eq_true.1 blank' c behind)

theorem mem_keptNames_or {c : Char} {names : Text} (member : c ∈ names) :
    c ∈ keptNames names ∨ Text.isBlank c = true ∨ c = ',' := by
  obtain ⟨commas, all, split⟩ := Text.exists_dropEndWhile (· == ',') (Text.trim names)
  rcases mem_trim_or member with inside | blank
  · rw [split, List.mem_append] at inside
    rcases inside with inside | comma
    · exact (mem_trim_or inside).imp_right .inl
    · exact .inr (.inr (by simpa using List.all_eq_true.1 all c comma))
  · exact .inr (.inl blank)

theorem keptNames_ne_nil {symbol names : Text} (name : IsName symbol) (inside : symbol <:+: names) :
    keptNames names ≠ [] := by
  intro none
  obtain ⟨c, rest, split⟩ := List.exists_cons_of_ne_nil name.some_char
  have own : c ∈ symbol := by simp [split]
  rcases mem_keptNames_or (inside.subset own) with kept | blank | rfl
  · rw [none] at kept
    cases kept
  · rw [name.visible c own] at blank
    cases blank
  · exact name.undivided own

end LibraryImport

namespace TypeImport

open LibraryImport (IsName Opens Stands)
open TestImports (addReact addMatchers buffer directiveCount insertLine linesAbove linesBelow
  LacksName)

variable {s : TypeImport} {found : LibraryImport} {before after symbol : Text}

def Keeps (s : TypeImport) (text : Text) : Prop :=
  ∃ above below, text = above ++ (s.statement ++ below) ∧ (above = s.above ∨ below = s.below)

theorem keeps_text (s : TypeImport) : Keeps s s.text :=
  ⟨s.above, s.below, rfl, .inl rfl⟩

theorem exists_changed_above {mark : Char} (visible : Text.isBlank mark = false)
    (cut : s.above = before ++ mark :: after) (before' : Text) :
    ∃ changed : TypeImport, changed.above = before' ++ mark :: after ∧
      changed.statement = s.statement ∧ changed.below = s.below := by
  obtain ⟨front, indent, feed, blank, after_eq⟩ := exists_feed visible cut
  refine ⟨{ s with
    above := before' ++ mark :: after
    start := ⟨before' ++ mark :: front, indent, .inr ?_, blank, by simp [after_eq]⟩ },
    rfl, rfl, rfl⟩
  rw [List.getLast?_append, List.getLast?_cons, feed]
  rfl

theorem exists_changed_below {mark : Char} (visible : Text.isBlank mark = false)
    (apart : mark ≠ ';') (cut : s.below = before ++ mark :: after) (after' : Text) :
    ∃ changed : TypeImport, changed.below = before ++ mark :: after' ∧
      changed.statement = s.statement ∧ changed.above = s.above ∧
      (Exposed changed ↔ Exposed s) := by
  obtain ⟨ends, rest, marks, stops, split⟩ := s.stop
  have absent : mark ∉ ends := by
    intro member
    rcases marks mark member with blank | same
    · rw [visible] at blank
      cases blank
    · exact apart same
  obtain ⟨between, rfl, rest_eq⟩ := Text.exists_beyond absent (cut.symm.trans split)
  have feed : (between ++ mark :: after').head? = some '\n' := by
    rcases stops with none | feed
    · simp [none] at rest_eq
    · rw [rest_eq] at feed
      cases between with
      | nil =>
          have same : mark = '\n' := by simpa using feed
          subst same
          exact absurd visible (by decide)
      | cons c between => exact feed
  let changed : TypeImport := { s with
    below := ends ++ between ++ mark :: after'
    stop := ⟨ends, between ++ mark :: after', marks, .inr feed, by simp⟩ }
  have same : Reached changed ↔ Reached s :=
    (reached_iff (s := changed)).trans (reached_iff (s := s)).symm
  exact ⟨changed, rfl, rfl, rfl,
    ⟨fun h => ⟨h.alone, h.unbroken, same.1 h.reached⟩,
      fun h => ⟨h.alone, h.unbroken, same.2 h.reached⟩⟩⟩

theorem exists_widened_above {rest : Text} (stands : Stands s.text found)
    (cut : s.above = found.before ++ (found.opening ++ (found.names ++ (found.closing ++ rest))))
    (symbol : Text) : ∃ widened : TypeImport, widened.text = (found.widen symbol).text ∧
      widened.statement = s.statement ∧ widened.below = s.below ∧
      widened.above = found.before ++ found.opening ++ (found.widen symbol).names ++
        found.closing ++ rest := by
  obtain ⟨mark, quote, ends⟩ := LibraryImport.getLast?_closing stands.closes
  obtain ⟨closing, closing_eq⟩ := List.getLast?_eq_some_iff.1 ends
  have after : found.after = rest ++ (s.statement ++ s.below) := by
    have split := stands.cut
    rw [text, cut, LibraryImport.text] at split
    simpa using split.symm
  have marked : s.above =
      found.before ++ (found.opening ++ (found.names ++ closing)) ++ mark :: rest := by
    rw [cut, closing_eq]
    simp
  obtain ⟨widened, above, statement, below⟩ := exists_changed_above
    (LibraryImport.blank_of_isQuote quote) marked
    (found.before ++ (found.opening ++ ((found.widen symbol).names ++ closing)))
  refine ⟨widened, ?_, statement, below, ?_⟩
  · rw [text, above, statement, below, LibraryImport.text]
    simp [after, closing_eq, LibraryImport.widen]
  · rw [above, closing_eq]
    simp

theorem exists_widened_below {rest : Text} (stands : Stands s.text found)
    (before : found.before = s.above ++ (s.statement ++ rest)) (symbol : Text) :
    ∃ widened : TypeImport, widened.text = (found.widen symbol).text ∧
      widened.statement = s.statement ∧ widened.above = s.above ∧
      (Exposed widened ↔ Exposed s) := by
  obtain ⟨blanks, line, _, _, _, _, _, opening⟩ := stands.opens
  have below : s.below = rest ++ 'i' :: ("mport".toList ++ (blanks ++ (line ++ [openBrace])) ++
      (found.names ++ (found.closing ++ found.after))) := by
    have split := stands.cut
    rw [text, LibraryImport.text, before, opening] at split
    simpa using split
  obtain ⟨widened, below, statement, above, same⟩ := exists_changed_below (by decide)
    (by decide) below ("mport".toList ++ (blanks ++ (line ++ [openBrace])) ++
      ((found.widen symbol).names ++ (found.closing ++ found.after)))
  refine ⟨widened, ?_, statement, above, same⟩
  rw [text, above, statement, below, LibraryImport.text]
  simp [LibraryImport.widen, before, opening]

theorem exists_widened (hidden : ¬ Exposed s) (first : LibraryImport.find? s.text = some found)
    (symbol : Text) : ∃ widened : TypeImport, widened.text = (found.widen symbol).text ∧
      widened.statement = s.statement ∧ (widened.above = s.above ∨ widened.below = s.below) ∧
      (IsName symbol → ¬ Exposed widened) := by
  have stands := (LibraryImport.find?_eq_some_iff.1 first).1
  cases meets_of_stands stands with
  | around around => exact absurd ((around_iff first).1 around) hidden
  | higher rest cut =>
      obtain ⟨widened, same, statement, below, above⟩ := exists_widened_above stands cut symbol
      refine ⟨widened, same, statement, .inr below, fun name exposed => ?_⟩
      exact exposed.alone { found.widen symbol with after := rest }
        ⟨stands.apart, above, stands.opens,
          LibraryImport.closeBrace_not_mem_widen name stands.names, stands.closes⟩
  | lower rest before =>
      obtain ⟨widened, same, statement, above, exposed_iff⟩ :=
        exists_widened_below stands before symbol
      exact ⟨widened, same, statement, .inl above,
        fun _ exposed => hidden (exposed_iff.1 exposed)⟩

theorem keeps_addIfUsed (hidden : ¬ Exposed s) (symbol usage : Text) :
    Keeps s ((LibraryImport.addIfUsed symbol usage s.text).getD s.text) := by
  cases added : LibraryImport.addIfUsed symbol usage s.text with
  | none => exact s.keeps_text
  | some text =>
      obtain ⟨found, first, _, _, rfl⟩ := LibraryImport.addIfUsed_eq_some_iff.1 added
      obtain ⟨widened, same, statement, side, _⟩ := exists_widened hidden first symbol
      refine ⟨widened.above, widened.below, ?_, side⟩
      rw [Option.getD_some, ← same, TypeImport.text, statement]

theorem listed_of_names_kept {above : Text} (name : IsName symbol) (around : Around s found)
    (opens : Opens found.opening)
    (kept : found.before ++ (found.opening ++ (found.widen symbol).names) =
      above ++ (s.opening ++ s.names)) : symbol ∈ LibraryImport.bindings found.names := by
  obtain ⟨line, opened, _⟩ := s.exists_opening
  obtain ⟨front, _, names⟩ := exists_names_behind opens around
  have last : openBrace ∉ symbol ++ [' '] := by
    rw [List.mem_append, not_or]
    exact ⟨name.opens, by decide⟩
  have widened : (found.widen symbol).names =
      ' ' :: (LibraryImport.widenNames found.names symbol ++ [' ']) := rfl
  rw [widened, LibraryImport.widenNames_eq, opened] at kept
  split at kept
  · rename_i empty
    have split : above ++ line ++ openBrace :: s.names =
        found.before ++ found.opening ++ [' '] ++ (symbol ++ [' ']) := by
      simpa using kept.symm
    obtain ⟨between, _, own⟩ := Text.exists_within last split
    have inside : symbol <:+: found.names := ⟨front ++ between, [' '], by rw [names, own]; simp⟩
    exact absurd (List.isEmpty_iff.1 empty) (LibraryImport.keptNames_ne_nil name inside)
  · have split : above ++ line ++ openBrace :: s.names = found.before ++ found.opening ++
        (' ' :: LibraryImport.keptNames found.names) ++ (", ".toList ++ (symbol ++ [' '])) := by
      simpa using kept.symm
    have last : openBrace ∉ ", ".toList ++ (symbol ++ [' ']) := by
      rw [List.mem_append, not_or]
      exact ⟨by decide, last⟩
    obtain ⟨between, _, own⟩ := Text.exists_within last split
    have space : Text.isBlank ' ' = true := by decide
    have split : found.names = front ++ between ++ ',' :: ' ' :: (symbol ++ [' ']) := by
      rw [names, own]
      simp
    rw [split, LibraryImport.bindings_append, LibraryImport.bindings_cons space,
      LibraryImport.bindings_concat space, LibraryImport.bindings_of_not_mem name.undivided,
      LibraryImport.boundNames_of_isName name]
    simp

theorem not_keeps_widen (exposed : Exposed s) (first : LibraryImport.find? s.text = some found)
    (name : IsName symbol) (absent : symbol ∉ LibraryImport.bindings found.names) :
    ¬ Keeps s (found.widen symbol).text := by
  have around := (around_iff first).2 exposed
  have stands := (LibraryImport.find?_eq_some_iff.1 first).1
  have behind := closing_of_around stands around
  rintro ⟨above, below, split, side⟩
  have split : found.before ++ (found.opening ++ (found.widen symbol).names) ++
      (s.closing ++ s.below) = above ++ (s.opening ++ s.names) ++ (s.closing ++ below) := by
    rw [← behind]
    unfold LibraryImport.text statement at split
    simpa [LibraryImport.widen] using split
  rcases side with rfl | rfl
  · unfold Around at around
    rw [← around, List.append_assoc, List.append_assoc, List.append_assoc, List.append_assoc]
      at split
    have split := List.append_cancel_left (List.append_cancel_left split)
    obtain ⟨names, _⟩ := LibraryImport.names_unique
      (LibraryImport.closeBrace_not_mem_widen name stands.names) stands.names split
    refine absent ?_
    rw [← names, LibraryImport.mem_bindings_widen name]
    exact .inr rfl
  · exact absent (listed_of_names_kept name around stands.opens (List.append_cancel_right split))

theorem keeps_addIfUsed_iff (name : IsName symbol) (usage : Text) :
    Keeps s ((LibraryImport.addIfUsed symbol usage s.text).getD s.text) ↔
      ¬ (Exposed s ∧ LibraryImport.addIfUsed symbol usage s.text ≠ none) := by
  constructor
  · rintro kept ⟨exposed, fires⟩
    obtain ⟨text, added⟩ := Option.ne_none_iff_exists'.1 fires
    obtain ⟨found, first, absent, _, rfl⟩ := LibraryImport.addIfUsed_eq_some_iff.1 added
    rw [added, Option.getD_some] at kept
    exact not_keeps_widen exposed first name absent kept
  · intro calm
    by_cases exposed : Exposed s
    · have idle : LibraryImport.addIfUsed symbol usage s.text = none := by
        simpa [exposed] using calm
      rw [idle]
      exact s.keeps_text
    · exact keeps_addIfUsed exposed symbol usage

/-- After each of the first checks the statement stands where it stood before that check, which has
changed the text on one side of it only. -/
inductive StaysThrough (s : TypeImport) : Nat → Text → Text → Prop
  | start : StaysThrough s 0 s.above s.below
  | below_kept {n : Nat} {above below : Text} (h : StaysThrough s n above below) (above' : Text)
      (next : buffer (n + 1) s.text = above' ++ (s.statement ++ below)) :
      StaysThrough s (n + 1) above' below
  | above_kept {n : Nat} {above below : Text} (h : StaysThrough s n above below) (below' : Text)
      (next : buffer (n + 1) s.text = above ++ (s.statement ++ below')) :
      StaysThrough s (n + 1) above below'

theorem StaysThrough.buffer_eq {n : Nat} {above below : Text} (h : StaysThrough s n above below) :
    buffer n s.text = above ++ (s.statement ++ below) := by
  cases h with
  | start => rfl
  | below_kept h above' next => exact next
  | above_kept h below' next => exact next

theorem StaysThrough.next {n : Nat} {above below above' below' : Text}
    (h : StaysThrough s n above below)
    (next : buffer (n + 1) s.text = above' ++ (s.statement ++ below'))
    (side : above' = above ∨ below' = below) : StaysThrough s (n + 1) above' below' := by
  rcases side with rfl | rfl
  · exact .above_kept h below' next
  · exact .below_kept h above' next

theorem StaysThrough.last {n : Nat} {above below : Text} (h : StaysThrough s (n + 1) above below) :
    ∃ above' below', StaysThrough s n above' below' ∧ (above = above' ∨ below = below') := by
  cases h with
  | below_kept h above' next => exact ⟨_, _, h, .inr rfl⟩
  | above_kept h below' next => exact ⟨_, _, h, .inl rfl⟩

theorem exists_stays_two (hidden : ¬ Exposed s) :
    ∃ above below, StaysThrough s 2 above below := by
  -- the widened text is that of a type-only import again, which is hidden as well
  obtain ⟨widened, same, statement, side, hidden'⟩ : ∃ widened : TypeImport,
      widened.text = buffer 1 s.text ∧ widened.statement = s.statement ∧
        (widened.above = s.above ∨ widened.below = s.below) ∧ ¬ Exposed widened := by
    rw [TestImports.buffer_one]
    cases added : LibraryImport.addIfUsed "screen".toList "screen.".toList s.text with
    | none => exact ⟨s, rfl, rfl, .inl rfl, hidden⟩
    | some text =>
        obtain ⟨found, first, _, _, rfl⟩ := LibraryImport.addIfUsed_eq_some_iff.1 added
        obtain ⟨widened, same, statement, side, hidden'⟩ := exists_widened hidden first "screen"
        exact ⟨widened, same, statement, side, hidden' LibraryImport.isName_screen⟩
  have one : StaysThrough s 1 widened.above widened.below :=
    StaysThrough.start.next (by rw [← same, text, statement]) side
  obtain ⟨above, below, split, side'⟩ := keeps_addIfUsed hidden' "render" "render("
  refine ⟨above, below, one.next ?_ side'⟩
  rw [TestImports.buffer_two, ← same, split, statement]

theorem stays_two_iff (s : TypeImport) : (∃ above below, StaysThrough s 2 above below) ↔
    ¬ (Exposed s ∧ LacksName s.text) := by
  constructor
  · rintro ⟨above, below, two⟩ ⟨exposed, lacks⟩
    obtain ⟨above₁, below₁, one, side'⟩ := two.last
    obtain ⟨_, _, zero, side⟩ := one.last
    cases zero
    have kept : Keeps s (buffer 1 s.text) := ⟨above₁, below₁, one.buffer_eq, side⟩
    rw [TestImports.buffer_one, keeps_addIfUsed_iff LibraryImport.isName_screen] at kept
    have idle : LibraryImport.addIfUsed "screen".toList "screen.".toList s.text = none := by
      simpa [exposed] using kept
    -- the first check has changed nothing, so the second one starts from the text itself
    have same : buffer 1 s.text = s.text := by
      rw [TestImports.buffer_one, idle, Option.getD_none]
    have split := same.symm.trans one.buffer_eq
    obtain ⟨rfl, rfl⟩ : s.above = above₁ ∧ s.below = below₁ := by
      unfold text at split
      rcases side with rfl | rfl
      · exact ⟨rfl, List.append_cancel_left (List.append_cancel_left split)⟩
      · exact ⟨List.append_cancel_right split, rfl⟩
    have kept : Keeps s (buffer 2 s.text) := ⟨above, below, two.buffer_eq, side'⟩
    rw [TestImports.buffer_two, same, keeps_addIfUsed_iff LibraryImport.isName_render] at kept
    exact kept ⟨exposed, lacks.resolve_left fun screen => screen idle⟩
  · intro calm
    by_cases exposed : Exposed s
    · have complete : ¬ LacksName s.text := fun lacks => calm ⟨exposed, lacks⟩
      unfold LacksName at complete
      rw [not_or, Classical.not_not, Classical.not_not] at complete
      have one : buffer 1 s.text = s.text := by
        rw [TestImports.buffer_one, complete.1, Option.getD_none]
      have two : buffer 2 s.text = s.text := by
        rw [TestImports.buffer_two, one, complete.2, Option.getD_none]
      exact ⟨_, _, (StaysThrough.start.next one (.inl rfl)).next two (.inl rfl)⟩
    · exact exists_stays_two exposed

def DividedIn (s : TypeImport) (text : Text) (index : List Text → Nat) : Prop :=
  ∃ above below, text = above ++ (s.statement ++ below) ∧
    above.length < (linesAbove text index).length ∧
    (linesAbove text index).length < (above ++ s.statement).length

structure Undivided (s : TypeImport) : Prop where
  react : addReact (buffer 2 s.text) ≠ none → ¬ s.DividedIn (buffer 2 s.text) directiveCount
  matchers : addMatchers (buffer 3 s.text) ≠ none →
    ¬ s.DividedIn (buffer 3 s.text) ImportBlock.endIndex

theorem undivided_of_one_line (unbroken : '\n' ∉ s.statement) : Undivided s := by
  have whole : ∀ text index, ¬ s.DividedIn text index := by
    rintro text index ⟨above, below, split, begins, ends⟩
    rcases TestImports.insertLine_cases text [] index with ⟨lines, _⟩ | ⟨all, _, _⟩
    · obtain ⟨inner, lines_eq⟩ : ∃ inner, linesAbove text index = above ++ inner := by
        rcases List.append_eq_append_iff.1 (lines.symm.trans split) with
          ⟨past, above_eq, _⟩ | ⟨past, lines_eq, _⟩
        · rw [above_eq, List.length_append] at begins
          omega
        · exact ⟨past, lines_eq⟩
      rw [lines_eq, List.append_assoc] at lines
      have inside := List.append_cancel_left (lines.symm.trans split)
      rw [lines_eq, List.length_append, List.length_append] at ends
      rw [lines_eq, List.length_append] at begins
      obtain ⟨rest, statement⟩ : inner <+: s.statement :=
        List.prefix_of_prefix_length_le (inside ▸ List.prefix_append ..) (List.prefix_append ..)
          (by omega)
      rcases TestImports.closed_of_append (lines_eq ▸ TestImports.closed_linesAbove text index) with
        empty | feed
      · rw [empty] at begins
        simp at begins
      · exact unbroken (by rw [← statement]; simp [List.mem_of_getLast? feed])
    · rw [all, split] at ends
      simp only [List.length_append] at ends
      omega
  exact ⟨fun _ => whole _ _, fun _ => whole _ _⟩

theorem exists_insertLine {text above below line : Text} {index : List Text → Nat}
    (split : text = above ++ (s.statement ++ below)) (whole : ¬ s.DividedIn text index) :
    ∃ above' below', insertLine text line index = above' ++ (s.statement ++ below') ∧
      (above' = above ∨ below' = below) := by
  rcases TestImports.insertLine_cases text line index with ⟨lines, inserted⟩ | ⟨_, _, inserted⟩
  · have joined := lines.symm.trans split
    by_cases ahead : (linesAbove text index).length ≤ above.length
    · obtain ⟨rest, rfl⟩ : linesAbove text index <+: above :=
        List.prefix_of_prefix_length_le (joined ▸ List.prefix_append ..) (List.prefix_append ..)
          ahead
      rw [List.append_assoc] at joined
      refine ⟨linesAbove text index ++ (line ++ (LineEnding.ofText text).text ++ rest), below, ?_,
        .inr rfl⟩
      rw [inserted, List.append_cancel_left joined]
      simp
    · have behind : (above ++ s.statement).length ≤ (linesAbove text index).length := by
        refine Nat.le_of_not_lt fun short => whole ⟨above, below, split, by omega, short⟩
      rw [← List.append_assoc] at joined
      obtain ⟨rest, lines_eq⟩ : above ++ s.statement <+: linesAbove text index :=
        List.prefix_of_prefix_length_le (List.prefix_append ..) (joined ▸ List.prefix_append ..)
          behind
      refine ⟨above, rest ++ (line ++ (LineEnding.ofText text).text ++ linesBelow text index), ?_,
        .inl rfl⟩
      rw [inserted, ← lines_eq]
      simp
  · refine ⟨above, below ++ ((LineEnding.ofText text).text ++ line), ?_, .inl rfl⟩
    rw [inserted, split]
    simp

theorem exists_stays_four {above below : Text} (h : StaysThrough s 2 above below)
    (whole : Undivided s) : ∃ above below, StaysThrough s 4 above below ∧
      (TestImports.fix s.text).1 = above ++ (s.statement ++ below) := by
  obtain ⟨above, below, three⟩ : ∃ above below, StaysThrough s 3 above below := by
    cases inserted : addReact (buffer 2 s.text) with
    | none =>
        refine ⟨above, below, h.next ?_ (.inl rfl)⟩
        rw [TestImports.buffer_three, inserted, Option.getD_none, h.buffer_eq]
    | some mended =>
        obtain ⟨above', below', split, side⟩ :=
          exists_insertLine h.buffer_eq (whole.react (by simp [inserted]))
        refine ⟨above', below', h.next ?_ side⟩
        rw [TestImports.buffer_three, inserted, Option.getD_some,
          TestImports.eq_of_addReact inserted, split]
  have last : buffer 4 s.text = (TestImports.fix s.text).1 := rfl
  cases inserted : addMatchers (buffer 3 s.text) with
  | none =>
      have same : (TestImports.fix s.text).1 = above ++ (s.statement ++ below) := by
        rw [TestImports.fix_fst, inserted, Option.getD_none, three.buffer_eq]
      exact ⟨above, below, three.next (last.trans same) (.inl rfl), same⟩
  | some mended =>
      obtain ⟨above', below', split, side⟩ :=
        exists_insertLine three.buffer_eq (whole.matchers (by simp [inserted]))
      have same : (TestImports.fix s.text).1 = above' ++ (s.statement ++ below') := by
        rw [TestImports.fix_fst, inserted, Option.getD_some,
          TestImports.eq_of_addMatchers inserted, split]
      exact ⟨above', below', three.next (last.trans same) side, same⟩

theorem stays_iff (s : TypeImport) :
    (¬ Exposed s → ∀ symbol usage,
      Keeps s ((LibraryImport.addIfUsed symbol usage s.text).getD s.text)) ∧
    (∀ symbol usage, IsName symbol →
      (Keeps s ((LibraryImport.addIfUsed symbol usage s.text).getD s.text) ↔
        ¬ (Exposed s ∧ LibraryImport.addIfUsed symbol usage s.text ≠ none))) ∧
    ((∃ above below, StaysThrough s 2 above below) ↔ ¬ (Exposed s ∧ LacksName s.text)) ∧
    (¬ (Exposed s ∧ LacksName s.text) → Undivided s → ∃ above below, StaysThrough s 4 above below ∧
      (TestImports.fix s.text).1 = above ++ (s.statement ++ below)) := by
  refine ⟨keeps_addIfUsed, fun _ usage name => keeps_addIfUsed_iff name usage, stays_two_iff s,
    fun calm whole => ?_⟩
  obtain ⟨above, below, two⟩ := (stays_two_iff s).2 calm
  exact exists_stays_four two whole

def typeAbove : TypeImport where
  above := []
  blanks := " "
  gap := " "
  names := " RenderResult "
  lead := " "
  clause := "from '@testing-library/react'"
  below := ";\nimport \x7b render \x7d from '@testing-library/react';\nrender(<App />);\nscreen.debug();\n"
  start := ⟨[], [], .inl rfl, rfl, rfl⟩
  some_blank := by decide
  blank := by decide
  gap_blank := by decide
  unopened := by decide
  unclosed := by decide
  lead_blank := by decide
  source := ⟨" ", '\'', '\'', by decide, by decide, by decide, by decide⟩
  stop := ⟨[';'], _, fun _ mark => .inr (List.mem_singleton.1 mark), .inr rfl, rfl⟩

theorem not_exposed_typeAbove : ¬ Exposed typeAbove := by
  rintro ⟨_, _, reached⟩
  cases reached with
  | spaced _ two _ => exact absurd two (by decide)
  | behindKeyword front blanks _ _ _ cut _ =>
      have size := congrArg List.length cut
      simp [typeAbove] at size
  | inBraces front opening rest _ opens cut _ =>
      obtain ⟨line, rfl⟩ := LibraryImport.exists_opening opens
      have size := congrArg List.length cut
      simp [typeAbove] at size

theorem stays_iff_typeAbove : ¬ Exposed typeAbove ∧
    (∀ symbol usage, Keeps typeAbove
      ((LibraryImport.addIfUsed symbol usage typeAbove.text).getD typeAbove.text)) ∧
    IsName "screen" ∧ Undivided typeAbove ∧
    Keeps typeAbove
      ((LibraryImport.addIfUsed "screen" "screen." typeAbove.text).getD typeAbove.text) ∧
    (∃ above below, StaysThrough typeAbove 2 above below) ∧
    ∃ above below,
      (TestImports.fix typeAbove.text).1 = above ++ (typeAbove.statement ++ below) := by
  have hidden := not_exposed_typeAbove
  have whole : Undivided typeAbove := undivided_of_one_line (by decide)
  have calm : ¬ (Exposed typeAbove ∧ LacksName typeAbove.text) := fun both => hidden both.1
  obtain ⟨all_kept, kept, two, four⟩ := stays_iff typeAbove
  obtain ⟨above, below, _, same⟩ := four calm whole
  exact ⟨hidden, all_kept hidden, LibraryImport.isName_screen, whole,
    (kept _ _ LibraryImport.isName_screen).2 fun both => hidden both.1, two.2 calm,
    above, below, same⟩

def typeSpaced : TypeImport where
  above := []
  blanks := "  "
  gap := " "
  names := " RenderResult "
  lead := " "
  clause := "from '@testing-library/react'"
  below := ";\nscreen.getByText('x');\n"
  start := ⟨[], [], .inl rfl, rfl, rfl⟩
  some_blank := by decide
  blank := by decide
  gap_blank := by decide
  unopened := by decide
  unclosed := by decide
  lead_blank := by decide
  source := ⟨" ", '\'', '\'', by decide, by decide, by decide, by decide⟩
  stop := ⟨[';'], _, fun _ mark => .inr (List.mem_singleton.1 mark), .inr rfl, rfl⟩

theorem typeSpaced_widened :
    LibraryImport.addIfUsed "screen" "screen." typeSpaced.text = some
      "import  type \x7b RenderResult, screen \x7d from '@testing-library/react';\nscreen.getByText('x');\n".toList ∧
    ¬ typeSpaced.statement <:+: (TestImports.fix typeSpaced.text).1 := by
  rw [← Text.occursIn_iff_infix]
  decide +kernel

end TypeImport

end DiagnosticRepair
