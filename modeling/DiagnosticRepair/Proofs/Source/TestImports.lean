import DiagnosticRepair.Proofs.Source.InsertedLine
import DiagnosticRepair.Source.TestImports

namespace DiagnosticRepair

namespace Text

variable {line : Text}

theorem takeWhile_append_visible {p : Char → Bool} (visible : line.head?.any p = false)
    (text : Text) : (text ++ line).takeWhile p = text.takeWhile p := by
  induction text with
  | nil =>
      cases line with
      | nil => rfl
      | cons c line =>
          have apart : p c = false := visible
          simp [apart]
  | cons c text ih =>
      rw [List.cons_append, List.takeWhile_cons, List.takeWhile_cons, ih]

theorem dropWhile_append_visible {p : Char → Bool} (visible : line.head?.any p = false)
    (text : Text) : (text ++ line).dropWhile p = text.dropWhile p ++ line := by
  induction text with
  | nil =>
      cases line with
      | nil => rfl
      | cons c line =>
          have apart : p c = false := visible
          simp [apart]
  | cons c text ih =>
      rw [List.cons_append, List.dropWhile_cons, List.dropWhile_cons, ih]
      split <;> rfl

theorem run?_append_visible {p : Char → Bool} (visible : line.head?.any p = false) (text : Text) :
    run? p (text ++ line) = (run? p text).map fun parts => (parts.1, parts.2 ++ line) := by
  simp only [run?, takeWhile_append_visible visible, dropWhile_append_visible visible]
  split <;> rfl

theorem join_append (separator : Text) (first : List Text) {second : List Text}
    (some_piece : second ≠ []) :
    join separator (first ++ second) =
      first.flatMap (· ++ separator) ++ join separator second := by
  induction first with
  | nil => rfl
  | cons piece first ih =>
      rw [List.flatMap_cons, List.append_assoc, ← ih, List.cons_append]
      cases rest : first ++ second with
      | nil => exact absurd (List.append_eq_nil_iff.1 rest).2 some_piece
      | cons next rest => rw [join_cons_cons]

theorem flatMap_eq_join (separator : Text) : ∀ {pieces : List Text}, pieces ≠ [] →
    pieces.flatMap (· ++ separator) = join separator pieces ++ separator
  | [], some_piece => absurd rfl some_piece
  | [piece], _ => by simp [join_singleton]
  | piece :: next :: rest, _ => by
      rw [List.flatMap_cons, flatMap_eq_join separator (by simp), join_cons_cons]
      simp

theorem flatMap_ends (separator : Text) (pieces : List Text) :
    pieces.flatMap (· ++ separator) = [] ∨ separator <:+ pieces.flatMap (· ++ separator) := by
  rcases List.eq_nil_or_concat pieces with rfl | ⟨pieces, last, rfl⟩
  · exact .inl rfl
  · right
    rw [List.concat_eq_append, List.flatMap_append, List.flatMap_singleton, ← List.append_assoc]
    exact List.suffix_append ..

end Text

namespace TestImports

open LibraryImport (Closed Inert Importable)

variable {text line above word rest : Text}

theorem closed_of_append {front back : Text} (h : Closed (front ++ back)) : Closed back := by
  cases last : back.getLast? with
  | none => exact .inl (List.getLast?_eq_none_iff.1 last)
  | some c =>
      rcases h with empty | feed
      · exact .inl (List.append_eq_nil_iff.1 empty).2
      · rw [List.getLast?_append, last] at feed
        exact .inr (last.trans feed)

theorem after?_append_line (closed : Closed above) (unbroken : '\n' ∉ word) (some_word : word ≠ [])
    (absent : above = [] → Text.after? word line = none) :
    Text.after? word (above ++ line) = (Text.after? word above).map (· ++ line) := by
  rcases closed with rfl | feed
  · rw [List.nil_append, absent rfl]
    cases word with
    | nil => exact absurd rfl some_word
    | cons c word => rfl
  · obtain ⟨front, rfl⟩ := List.getLast?_eq_some_iff.1 feed
    have starts := Text.isPrefixOf_append_of_not_mem unbroken front line
    have starts' := Text.isPrefixOf_append_of_not_mem unbroken front []
    unfold Text.after?
    rw [List.append_assoc, List.singleton_append, starts, starts']
    cases found : word.isPrefixOf front with
    | false => rfl
    | true =>
        have long := (List.isPrefixOf_iff_prefix.1 found).length_le
        rw [if_pos rfl, if_pos rfl, List.drop_append_of_le_length long,
          List.drop_append_of_le_length long]
        simp

theorem closed_after? (closed : Closed above) (h : Text.after? word above = some rest) :
    Closed rest := by
  rw [Text.eq_append_of_after? h] at closed
  exact closed_of_append closed

theorem afterWord?_append_line (closed : Closed above) (visible : line.head?.any Text.isBlank = false)
    (unbroken : '\n' ∉ word) (some_word : word ≠ [])
    (absent : above = [] → Text.after? word line = none) :
    afterWord? word (above ++ line) = (afterWord? word above).map (· ++ line) := by
  unfold afterWord?
  rw [after?_append_line closed unbroken some_word absent]
  cases Text.after? word above with
  | none => rfl
  | some rest =>
      simp only [Option.map_some, Option.bind_eq_bind, Option.bind_some,
        Text.run?_append_visible visible]
      cases Text.run? Text.isBlank rest <;> rfl

theorem closed_afterWord? (closed : Closed above) (h : afterWord? word above = some rest) :
    Closed rest := by
  unfold afterWord? at h
  cases first : Text.after? word above with
  | none =>
      rw [first] at h
      cases h
  | some behind =>
      simp only [first, Option.bind_eq_bind, Option.bind_some] at h
      obtain ⟨parts, run, same⟩ := Option.bind_eq_some_iff.1 h
      obtain rfl := Option.some.inj same
      have split := (Text.eq_of_run? run).2.2.2
      have closed := closed_after? closed first
      rw [split] at closed
      exact closed_of_append closed

theorem startsWord_append_line (closed : Closed above) (unbroken : '\n' ∉ word)
    (some_word : word ≠ []) (absent : Text.after? word line = none) :
    startsWord word (above ++ line) = startsWord word above := by
  unfold startsWord
  rw [after?_append_line closed unbroken some_word fun _ => absent]
  cases found : Text.after? word above with
  | none => rfl
  | some rest =>
      have split := Text.eq_append_of_after? found
      cases rest with
      | cons c rest => rfl
      | nil =>
          rw [List.append_nil] at split
          subst split
          rcases closed with empty | feed
          · exact absurd empty some_word
          · exact absurd (List.mem_of_getLast? feed) unbroken

structure Foreign (line : Text) : Prop where
  visible : line.head?.any Text.isBlank = false
  react : importsReact line = false
  star : Text.after? "*" line = none
  asName : Text.after? "as" line = none
  name : Text.after? "React" line = none

theorem importsReact_append_line (foreign : Foreign line) (closed : Closed above) :
    importsReact (above ++ line) = importsReact above := by
  have trimmed : ∀ above, Text.trimStart (above ++ line) = Text.trimStart above ++ line :=
    Text.dropWhile_append_visible foreign.visible
  have closed' : Closed (Text.trimStart above) := by
    obtain ⟨blanks, _, split⟩ := Text.exists_trimStart above
    rw [split] at closed
    exact closed_of_append closed
  by_cases empty : Text.trimStart above = []
  · have alone := foreign.react
    unfold importsReact at alone ⊢
    rw [trimmed, empty]
    have same := trimmed []
    rw [List.nil_append] at same
    rw [same] at alone
    exact alone
  · unfold importsReact
    rw [trimmed, afterWord?_append_line closed' foreign.visible (by decide) (by decide)
      fun none => absurd none empty]
    cases keyword : afterWord? "import".toList (Text.trimStart above) with
    | none => rfl
    | some rest =>
        have closed_rest := closed_afterWord? closed' keyword
        have react : ∀ {rest : Text}, Closed rest →
            startsWord "React" (rest ++ line) = startsWord "React" rest := fun closed =>
          startsWord_append_line closed (by decide) (by decide) foreign.name
        have star : afterStarAs? (rest ++ line) = (afterStarAs? rest).map (· ++ line) := by
          unfold afterStarAs?
          rw [afterWord?_append_line closed_rest foreign.visible (by decide) (by decide)
            fun _ => foreign.star]
          cases first : afterWord? "*".toList rest with
          | none => rfl
          | some behind =>
              exact afterWord?_append_line (closed_afterWord? closed_rest first) foreign.visible
                (by decide) (by decide) fun _ => foreign.asName
        simp only [Option.map_some, react closed_rest, star]
        cases all : afterStarAs? rest with
        | none => rfl
        | some behind =>
            have closed_behind : Closed behind := by
              unfold afterStarAs? at all
              obtain ⟨first, starred, renamed⟩ := Option.bind_eq_some_iff.1 all
              exact closed_afterWord? (closed_afterWord? closed_rest starred) renamed
            simp only [Option.map_some, Option.any_some, react closed_behind]

theorem someLineStart_append_line (foreign : Foreign line) (closed : Closed above) :
    someLineStart importsReact (above ++ line) =
      (someLineStart importsReact above || someLineStart importsReact line) := by
  induction above with
  | nil => rfl
  | cons c above ih =>
      have closed' : Closed above := closed_of_append (show Closed ([c] ++ above) from closed)
      by_cases feed : c = '\n'
      · subst feed
        simp only [List.cons_append, someLineStart, ih closed', Bool.or_assoc,
          importsReact_append_line foreign closed']
      · simp only [List.cons_append, someLineStart, ih closed']

theorem hasReactImport_append_line (foreign : Foreign line) (closed : Closed above) :
    hasReactImport (above ++ line) =
      (hasReactImport above || someLineStart importsReact line) := by
  unfold hasReactImport atLineStart
  rw [importsReact_append_line foreign closed, someLineStart_append_line foreign closed,
    Bool.or_assoc]

theorem someLineStart_of_not_mem (unbroken : '\n' ∉ above) (rest : Text) :
    someLineStart importsReact (above ++ rest) = someLineStart importsReact rest := by
  induction above with
  | nil => rfl
  | cons c above ih =>
      rw [List.mem_cons, not_or] at unbroken
      rw [List.cons_append, someLineStart, ih unbroken.2]
      exact fun same => unbroken.1 same.symm

theorem hasReactImport_of_line (closed : Closed above) (react : importsReact line = true) :
    hasReactImport (above ++ line) = true := by
  unfold hasReactImport atLineStart
  rcases closed with rfl | feed
  · rw [List.nil_append, react, Bool.true_or]
  · obtain ⟨front, rfl⟩ := List.getLast?_eq_some_iff.1 feed
    rw [Bool.or_eq_true]
    right
    rw [List.append_assoc, List.singleton_append]
    induction front with
    | nil => simp [someLineStart, react]
    | cons c front ih =>
        have later := ih (by simp)
        by_cases feed : c = '\n'
        · simp [feed, someLineStart, later]
        · simp [someLineStart, later]

theorem foreign_matcherImport (rest : Text) : Foreign (Conventions.matcherImport ++ rest) where
  visible := rfl
  react := by rfl
  star := rfl
  asName := rfl
  name := rfl

theorem importsReact_reactImport (rest : Text) :
    importsReact (Conventions.reactImport ++ rest) = true := by
  rfl

def linesAbove (text : Text) (index : List Text → Nat) : Text :=
  let lines := (LineEnding.ofText text).split text
  (lines.take (index lines)).flatMap (· ++ (LineEnding.ofText text).text)

def linesBelow (text : Text) (index : List Text → Nat) : Text :=
  let lines := (LineEnding.ofText text).split text
  (LineEnding.ofText text).join (lines.drop (index lines))

theorem closed_flatMap (ending : LineEnding) (lines : List Text) :
    Closed (lines.flatMap (· ++ ending.text)) := by
  refine (Text.flatMap_ends ending.text lines).imp_right ?_
  rintro ⟨above, split⟩
  rw [← split, List.getLast?_append]
  cases ending <;> rfl

theorem closed_linesAbove (text : Text) (index : List Text → Nat) :
    Closed (linesAbove text index) :=
  closed_flatMap ..

theorem insertLine_cases (text statement : Text) (index : List Text → Nat) :
    (text = linesAbove text index ++ linesBelow text index ∧
      insertLine text statement index = linesAbove text index ++
        (statement ++ (LineEnding.ofText text).text ++ linesBelow text index)) ∨
    (linesAbove text index = text ++ (LineEnding.ofText text).text ∧ linesBelow text index = [] ∧
      insertLine text statement index =
        text ++ ((LineEnding.ofText text).text ++ statement)) := by
  have whole := (LineEnding.ofText text).join_split text
  have some_line := (LineEnding.ofText text).split_ne_nil text
  unfold insertLine linesAbove linesBelow
  simp only
  generalize LineEnding.ofText text = ending at *
  generalize ending.split text = lines at *
  unfold LineEnding.join at *
  by_cases inside : index lines < lines.length
  · left
    have some_below : lines.drop (index lines) ≠ [] := by simpa using inside
    constructor
    · rw [← Text.join_append _ _ some_below, List.take_append_drop, whole]
    · rw [Text.join_append _ _ (by simp)]
      cases below : lines.drop (index lines) with
      | nil => exact absurd below some_below
      | cons line rest => rw [Text.join_cons_cons]
  · right
    have all : lines.take (index lines) = lines := List.take_of_length_le (by omega)
    have none_below : lines.drop (index lines) = [] := List.drop_of_length_le (by omega)
    rw [all, none_below, Text.flatMap_eq_join _ some_line, Text.join_append _ _ (by simp),
      Text.join_singleton, Text.flatMap_eq_join _ some_line, whole]
    exact ⟨rfl, rfl, by simp⟩

theorem inert_reactImport : Inert Conventions.reactImport where
  opens := by decide
  closes := by decide
  starts := ⟨_, rfl⟩
  ends := by decide
  unbroken := by decide
  source := by decide

theorem inert_matcherImport : Inert Conventions.matcherImport where
  opens := by decide
  closes := by decide
  starts := ⟨_, rfl⟩
  ends := by decide
  unbroken := by decide
  source := by decide

theorem importable_screen : Importable "screen".toList where
  plain := by decide
  comma := by decide
  bound := by decide
  first := ⟨_, _, rfl, by decide⟩
  last := ⟨"scree".toList, 'n', rfl, by decide⟩

theorem importable_render : Importable "render".toList where
  plain := by decide
  comma := by decide
  bound := by decide
  first := ⟨_, _, rfl, by decide⟩
  last := ⟨"rende".toList, 'r', rfl, by decide⟩

theorem addIfUsed_insertLine {symbol usage statement : Text} {index : List Text → Nat}
    (inert : Inert statement) (h : usage.OneLine) (absent : ¬ usage <:+: statement)
    (idle : LibraryImport.addIfUsed symbol usage text = none)
    (whole : ∀ found, LibraryImport.find? text = some found →
      ¬ found.CutAt (linesAbove text index).length) :
    LibraryImport.addIfUsed symbol usage (insertLine text statement index) = none := by
  rcases insertLine_cases text statement index with ⟨split, inserted⟩ | ⟨_, _, inserted⟩
  · rw [inserted]
    rw [split] at idle
    refine LibraryImport.addIfUsed_insert_of_none inert _ (closed_linesAbove text index) h absent
      idle fun found first => whole found ?_
    rwa [split]
  · rw [inserted]
    exact LibraryImport.addIfUsed_append_of_none inert _ h absent idle

theorem hasReactImport_insertLine_reactImport (text : Text) (index : List Text → Nat) :
    hasReactImport (insertLine text Conventions.reactImport index) = true := by
  have closed := closed_linesAbove text index
  rcases insertLine_cases text Conventions.reactImport index with
    ⟨_, inserted⟩ | ⟨above, _, inserted⟩
  · rw [inserted, List.append_assoc]
    exact hasReactImport_of_line closed (importsReact_reactImport _)
  · rw [above] at closed
    rw [inserted, ← List.append_assoc]
    exact hasReactImport_of_line closed (importsReact_reactImport [])

theorem hasReactImport_insertLine_matcherImport (text : Text) (index : List Text → Nat) :
    hasReactImport (insertLine text Conventions.matcherImport index) =
      (hasReactImport (linesAbove text index) || hasReactImport (linesBelow text index)) := by
  have closed := closed_linesAbove text index
  have unbroken : '\n' ∉ Conventions.matcherImport := by decide
  rcases insertLine_cases text Conventions.matcherImport index with
    ⟨_, inserted⟩ | ⟨above, below, inserted⟩
  · rw [inserted, List.append_assoc, hasReactImport_append_line (foreign_matcherImport _) closed,
      someLineStart_of_not_mem unbroken]
    cases LineEnding.ofText text <;> simp [LineEnding.text, someLineStart, hasReactImport, atLineStart]
  · rw [above] at closed
    have last := foreign_matcherImport []
    rw [List.append_nil] at last
    have ends := someLineStart_of_not_mem unbroken []
    rw [List.append_nil] at ends
    rw [inserted, ← List.append_assoc, hasReactImport_append_line last closed, ends, above, below]
    rfl

def buffer (n : Nat) (text : Text) : Text :=
  ((checks.take n).foldl Check.step (text, [])).1

theorem step_fst (state : Text × List Text) (check : Check) :
    (Check.step state check).1 = (check.mend state.1).getD state.1 := by
  unfold Check.step
  cases check.mend state.1 <;> rfl

theorem buffer_one (text : Text) :
    buffer 1 text = (LibraryImport.addIfUsed "screen" "screen." text).getD text :=
  step_fst (text, []) _

theorem buffer_two (text : Text) : buffer 2 text =
    (LibraryImport.addIfUsed "render" "render(" (buffer 1 text)).getD (buffer 1 text) :=
  step_fst _ _

theorem buffer_three (text : Text) :
    buffer 3 text = (addReact (buffer 2 text)).getD (buffer 2 text) :=
  step_fst _ _

theorem fix_fst (text : Text) : (fix text).1 = (addMatchers (buffer 3 text)).getD (buffer 3 text) :=
  step_fst _ _

theorem run_eq_iff {some_checks : List Check} {done : List Text} :
    some_checks.foldl Check.step (text, done) = (text, done) ↔
      ∀ check ∈ some_checks, check.mend text = none := by
  have grows : ∀ (rest : List Check) (state : Text × List Text),
      state.2.length ≤ (rest.foldl Check.step state).2.length := by
    intro rest
    induction rest with
    | nil => exact fun _ => Nat.le_refl _
    | cons check rest ih =>
        intro state
        refine Nat.le_trans ?_ (ih _)
        unfold Check.step
        cases check.mend state.1 <;> simp
  induction some_checks with
  | nil => simp
  | cons check rest ih =>
      rw [List.foldl_cons, List.forall_mem_cons]
      cases found : check.mend text with
      | none =>
          have idle : Check.step (text, done) check = (text, done) := by
            unfold Check.step
            rw [found]
          rw [idle]
          simpa using ih
      | some mended =>
          have applied : Check.step (text, done) check =
              (mended, done ++ [check.description]) := by
            unfold Check.step
            rw [found]
          rw [applied]
          refine iff_of_false (fun same => ?_) fun none => by cases none.1
          have longer := grows rest (mended, done ++ [check.description])
          rw [same] at longer
          simp only [List.length_append, List.length_singleton] at longer
          omega

def LacksName (text : Text) : Prop :=
  LibraryImport.addIfUsed "screen" "screen." text ≠ none ∨
    LibraryImport.addIfUsed "render" "render(" text ≠ none

theorem fix_eq_self_iff (text : Text) :
    fix text = (text, []) ↔ ¬ LacksName text ∧ addReact text = none ∧ addMatchers text = none := by
  unfold fix
  rw [run_eq_iff]
  simp only [checks, List.forall_mem_cons, List.not_mem_nil, false_implies, implies_true, and_true,
    LacksName, not_or, ne_eq, Decidable.not_not, and_assoc]

def CutsImport (text : Text) (index : List Text → Nat) : Prop :=
  ∃ found, LibraryImport.find? text = some found ∧ found.CutAt (linesAbove text index).length

/-- What can make another import the first one, or the same import another. -/
inductive Disturbed (text : Text) : Prop
  | joined (found : LibraryImport) (lacks : LacksName text)
      (first : LibraryImport.find? text = some found) (joins : found.Joins)
  | cutByReact (inserted : addReact (buffer 2 text) ≠ none)
      (cut : CutsImport (buffer 2 text) directiveCount)
  | cutByMatchers (inserted : addMatchers (buffer 3 text) ≠ none)
      (cut : CutsImport (buffer 3 text) ImportBlock.endIndex)

/-- The line for the matchers is put inside the only import of `React` that a text with markup
has. -/
def ReactDivided (text : Text) : Prop :=
  addMatchers (buffer 3 text) ≠ none ∧ hasMarkup (fix text).1 = true ∧
    hasReactImport (linesAbove (buffer 3 text) ImportBlock.endIndex) = false ∧
    hasReactImport (linesBelow (buffer 3 text) ImportBlock.endIndex) = false

theorem not_lacksName_buffer_two (settled : LacksName text → ∀ found,
    LibraryImport.find? text = some found → ¬ found.Joins) : ¬ LacksName (buffer 2 text) := by
  unfold LacksName at settled ⊢
  rw [not_or, Classical.not_not, Classical.not_not, buffer_two, buffer_one]
  cases screen : LibraryImport.addIfUsed "screen".toList "screen.".toList text with
  | none =>
      rw [Option.getD_none]
      cases render : LibraryImport.addIfUsed "render".toList "render(".toList text with
      | none => exact ⟨screen, render⟩
      | some widened =>
          obtain ⟨found, first, _, _, rfl⟩ := LibraryImport.addIfUsed_eq_some_iff.1 render
          have calm := settled (.inr (Option.ne_none_iff_exists'.2 ⟨_, render⟩)) found first
          exact ⟨LibraryImport.addIfUsed_widen_of_none importable_render first calm screen,
            LibraryImport.addIfUsed_widen_self importable_render first calm⟩
  | some widened =>
      obtain ⟨found, first, _, _, rfl⟩ := LibraryImport.addIfUsed_eq_some_iff.1 screen
      have calm := settled (.inl (Option.ne_none_iff_exists'.2 ⟨_, screen⟩)) found first
      have screen' : LibraryImport.addIfUsed "screen".toList "screen.".toList
          (found.widen "screen").text = none :=
        LibraryImport.addIfUsed_widen_self importable_screen first calm
      have first' := LibraryImport.find?_widen first importable_screen.plain calm
      rw [Option.getD_some]
      cases render : LibraryImport.addIfUsed "render".toList "render(".toList
          (found.widen "screen").text with
      | none => exact ⟨screen', render⟩
      | some widened =>
          obtain ⟨found', first'', _, _, rfl⟩ := LibraryImport.addIfUsed_eq_some_iff.1 render
          have calm' : ¬ found'.Joins := by
            rw [first'] at first''
            rw [← Option.some.inj first'']
            exact LibraryImport.not_joins_widen importable_screen found
          exact ⟨LibraryImport.addIfUsed_widen_of_none importable_render first'' calm' screen',
            LibraryImport.addIfUsed_widen_self importable_render first'' calm'⟩

theorem not_lacksName_insertLine {statement : Text} {index : List Text → Nat}
    (inert : Inert statement) (unused : Text.occursIn "screen." statement = false)
    (unused' : Text.occursIn "render(" statement = false) (idle : ¬ LacksName text)
    (whole : ¬ CutsImport text index) : ¬ LacksName (insertLine text statement index) := by
  unfold LacksName at idle ⊢
  rw [not_or, Classical.not_not, Classical.not_not] at idle ⊢
  have whole : ∀ found, LibraryImport.find? text = some found →
      ¬ found.CutAt (linesAbove text index).length :=
    fun found first cut => whole ⟨found, first, cut⟩
  rw [Bool.eq_false_iff, ne_eq, Text.occursIn_iff_infix] at unused unused'
  exact ⟨addIfUsed_insertLine inert (by simp [Text.OneLine]) unused idle.1 whole,
    addIfUsed_insertLine inert (by simp [Text.OneLine]) unused' idle.2 whole⟩

theorem eq_of_addReact {mended : Text} (h : addReact text = some mended) :
    mended = insertLine text Conventions.reactImport directiveCount := by
  unfold addReact at h
  split at h
  · cases h
  · exact (Option.some.inj h).symm

theorem eq_of_addMatchers {mended : Text} (h : addMatchers text = some mended) :
    mended = insertLine text Conventions.matcherImport ImportBlock.endIndex := by
  unfold addMatchers at h
  split at h
  · cases h
  · exact (Option.some.inj h).symm

theorem not_lacksName_fix (settled : ¬ Disturbed text) : ¬ LacksName (fix text).1 := by
  have widened := not_lacksName_buffer_two fun lacks found first joins =>
    settled (.joined found lacks first joins)
  have after_react : ¬ LacksName (buffer 3 text) := by
    rw [buffer_three]
    cases inserted : addReact (buffer 2 text) with
    | none => exact widened
    | some mended =>
        rw [Option.getD_some, eq_of_addReact inserted]
        exact not_lacksName_insertLine inert_reactImport (by decide) (by decide) widened fun cut =>
          settled (.cutByReact (by simp [inserted]) cut)
  rw [fix_fst]
  cases inserted : addMatchers (buffer 3 text) with
  | none => exact after_react
  | some mended =>
      rw [Option.getD_some, eq_of_addMatchers inserted]
      exact not_lacksName_insertLine inert_matcherImport (by decide) (by decide) after_react
        fun cut => settled (.cutByMatchers (by simp [inserted]) cut)

theorem addReact_eq_none_iff : addReact text = none ↔
    hasMarkup text = false ∨ hasReactImport text = true := by
  unfold addReact
  cases hasMarkup text <;> cases hasReactImport text <;> simp

theorem addReact_buffer_three (text : Text) : addReact (buffer 3 text) = none := by
  rw [buffer_three]
  cases inserted : addReact (buffer 2 text) with
  | none => exact inserted
  | some mended =>
      rw [Option.getD_some, eq_of_addReact inserted]
      exact addReact_eq_none_iff.2 (.inr (hasReactImport_insertLine_reactImport _ _))

theorem addReact_fix_iff (text : Text) : addReact (fix text).1 ≠ none ↔ ReactDivided text := by
  rw [ne_eq, addReact_eq_none_iff, not_or, Bool.not_eq_false, Bool.not_eq_true]
  unfold ReactDivided
  cases inserted : addMatchers (buffer 3 text) with
  | none =>
      have same : (fix text).1 = buffer 3 text := by rw [fix_fst, inserted, Option.getD_none]
      refine iff_of_false ?_ fun divided => divided.1 rfl
      rw [same]
      rintro ⟨markup, lacking⟩
      rcases addReact_eq_none_iff.1 (addReact_buffer_three text) with plain | imported
      · rw [markup] at plain
        cases plain
      · rw [lacking] at imported
        cases imported
  | some mended =>
      have same : hasReactImport (fix text).1 =
          (hasReactImport (linesAbove (buffer 3 text) ImportBlock.endIndex) ||
            hasReactImport (linesBelow (buffer 3 text) ImportBlock.endIndex)) := by
        rw [fix_fst, inserted, Option.getD_some, eq_of_addMatchers inserted]
        exact hasReactImport_insertLine_matcherImport _ _
      rw [same, Bool.or_eq_false_iff]
      simp

theorem addMatchers_insertLine_matcherImport (text : Text) (index : List Text → Nat) :
    addMatchers (insertLine text Conventions.matcherImport index) = none := by
  have named : Text.occursIn "jest-dom" (insertLine text Conventions.matcherImport index) = true := by
    have own : "jest-dom".toList <:+: Conventions.matcherImport :=
      Text.occursIn_iff_infix.1 (by decide)
    rw [Text.occursIn_iff_infix]
    refine own.trans ?_
    rcases insertLine_cases text Conventions.matcherImport index with ⟨_, split⟩ | ⟨_, _, split⟩
    · rw [split, List.append_assoc]
      exact List.infix_append_of_infix_right (List.prefix_append ..).isInfix
    · rw [split]
      exact List.infix_append_of_infix_right (List.suffix_append ..).isInfix
  unfold addMatchers
  rw [named]
  simp

theorem addMatchers_fix (text : Text) : addMatchers (fix text).1 = none := by
  rw [fix_fst]
  cases inserted : addMatchers (buffer 3 text) with
  | none => exact inserted
  | some mended =>
      rw [Option.getD_some, eq_of_addMatchers inserted]
      exact addMatchers_insertLine_matcherImport ..

theorem fix_idempotent_iff (text : Text) :
    fix (fix text).1 = ((fix text).1, []) ↔
      ¬ (Disturbed text ∧ LacksName (fix text).1 ∨ ReactDivided text) := by
  rw [fix_eq_self_iff, not_or, ← addReact_fix_iff, Classical.not_not]
  constructor
  · rintro ⟨complete, react, _⟩
    exact ⟨fun found => complete found.2, react⟩
  · rintro ⟨calm, react⟩
    refine ⟨fun lacks => ?_, react, addMatchers_fix text⟩
    by_cases settled : Disturbed text
    · exact calm ⟨settled, lacks⟩
    · exact not_lacksName_fix settled lacks

/-- Two imports of which the second is the first one to name the library on its line; taking the
line breaks out of its names makes it the end of an import that starts with the first. -/
def joinedImports : Text :=
  "import \x7b useState \x7d from 'react'; import \x7b\n  render,\n\x7d from '@testing-library/react';\nscreen.getByText('x');\n"

theorem fix_not_idempotent_joinedImports :
    (fix joinedImports).2 = ["Added screen to testing-library import".toList] ∧
      (fix (fix joinedImports).1).2 = ["Added screen to testing-library import".toList] ∧
      fix (fix joinedImports).1 ≠ ((fix joinedImports).1, []) := by
  decide +kernel

end TestImports

end DiagnosticRepair
