import DiagnosticRepair.Proofs.Source.TestImports

namespace DiagnosticRepair

open LibraryImport (IsSource Closed Opens Closes Stands Earlier)

structure TypeImport where
  above : Text
  blanks : Text
  gap : Text
  names : Text
  lead : Text
  clause : Text
  below : Text
  start : ∃ front indent, Closed front ∧ Text.allBlank indent = true ∧ above = front ++ indent
  some_blank : blanks ≠ []
  blank : Text.allBlank blanks = true
  gap_blank : Text.allBlank gap = true
  unopened : openBrace ∉ names
  unclosed : closeBrace ∉ names
  lead_blank : Text.allBlank lead = true
  source : IsSource clause
  stop : ∃ ends rest, (∀ c ∈ ends, Text.isBlank c = true ∨ c = ';') ∧
    (rest = [] ∨ rest.head? = some '\n') ∧ below = ends ++ rest

namespace LibraryImport

variable {clause after more rest : Text}

theorem source_ends_before_import (source : IsSource clause)
    (split : more ++ 'i' :: 'm' :: rest = clause ++ after) :
    ∃ between, more = clause ++ between := by
  rcases List.append_eq_append_iff.1 split with ⟨last, rfl, behind⟩ | ⟨between, rfl, _⟩
  · obtain ⟨mark, quote, ends⟩ := getLast?_source source
    rcases last with _ | ⟨c, _ | ⟨d, last⟩⟩
    · exact ⟨[], by simp⟩
    · obtain rfl := (List.cons.inj behind).1
      rw [List.getLast?_concat] at ends
      exact absurd (Option.some.inj ends).symm (quote_ne quote (by decide))
    · obtain rfl := (List.cons.inj behind).1
      obtain rfl := (List.cons.inj (List.cons.inj behind).2).1
      exact absurd rfl (source_ne source more last)
  · exact ⟨between, rfl⟩

end LibraryImport

namespace TypeImport

variable {s : TypeImport} {found : LibraryImport} {before after front indent : Text}

def opening (s : TypeImport) : Text :=
  "import".toList ++ (s.blanks ++ ("type".toList ++ (s.gap ++ [openBrace])))

theorem opening_eq (s : TypeImport) : s.opening =
    "import".toList ++ (s.blanks ++ ("type".toList ++ (s.gap ++ [openBrace]))) :=
  rfl

def closing (s : TypeImport) : Text :=
  closeBrace :: (s.lead ++ s.clause)

def statement (s : TypeImport) : Text :=
  s.opening ++ (s.names ++ s.closing)

def text (s : TypeImport) : Text :=
  s.above ++ (s.statement ++ s.below)

theorem not_mem_of_blank {blanks : Text} {c : Char} (blank : Text.allBlank blanks = true)
    (visible : Text.isBlank c = false) : c ∉ blanks := by
  intro member
  rw [List.all_eq_true.1 blank c member] at visible
  cases visible

theorem isWord_of_isBlank {c : Char} (blank : Text.isBlank c = true) : Text.isWord c = false := by
  have apart : Text.blanks.any Text.isWord = false := by decide +kernel
  exact Bool.eq_false_iff.2 (List.any_eq_false.1 apart c (List.contains_iff_mem.1 blank))

theorem closeBrace_not_mem_opening (s : TypeImport) : closeBrace ∉ s.opening := by
  rw [opening_eq]
  simp only [List.mem_append, not_or]
  exact ⟨by decide, not_mem_of_blank s.blank (by decide), by decide,
    not_mem_of_blank s.gap_blank (by decide), by decide⟩

theorem openBrace_not_mem_closing (s : TypeImport) : openBrace ∉ s.closing := by
  unfold closing
  simp only [List.mem_cons, List.mem_append, not_or]
  exact ⟨by decide, not_mem_of_blank s.lead_blank (by decide),
    LibraryImport.source_apart s.source (by decide) (by decide)⟩

theorem exists_opening (s : TypeImport) :
    ∃ line, s.opening = line ++ [openBrace] ∧ openBrace ∉ line := by
  refine ⟨"import".toList ++ (s.blanks ++ ("type".toList ++ s.gap)), ?_, ?_⟩
  · rw [opening_eq, List.append_assoc, List.append_assoc, List.append_assoc]
  · simp only [List.mem_append, not_or]
    exact ⟨by decide, not_mem_of_blank s.blank (by decide), by decide,
      not_mem_of_blank s.gap_blank (by decide)⟩

theorem exists_statement (s : TypeImport) :
    ∃ line mark, LibraryImport.isQuote mark = true ∧ s.statement = line ++ [mark] := by
  obtain ⟨mark, quote, ends⟩ := LibraryImport.getLast?_source s.source
  obtain ⟨word, clause⟩ := List.getLast?_eq_some_iff.1 ends
  exact ⟨s.opening ++ (s.names ++ closeBrace :: (s.lead ++ word)), mark, quote, by
    simp [statement, closing, clause]⟩

theorem exists_feed {c : Char} (visible : Text.isBlank c = false)
    (cut : s.above = before ++ c :: after) : ∃ front indent, front.getLast? = some '\n' ∧
      Text.allBlank indent = true ∧ after = front ++ indent := by
  obtain ⟨front, indent, closed, blank, split⟩ := s.start
  obtain ⟨between, rfl, rfl⟩ :=
    Text.exists_within (not_mem_of_blank blank visible) (cut.symm.trans split)
  have closed := TestImports.closed_of_append closed
  refine ⟨between, indent, ?_, blank, rfl⟩
  rcases closed with none | feed
  · cases none
  · cases ends : between.getLast? with
    | some d => simpa [List.getLast?_cons, ends] using feed
    | none =>
        have same : c = '\n' := by simpa [List.getLast?_cons, ends] using feed
        subst same
        exact absurd visible (by decide)

theorem apart_above (s : TypeImport) : s.above.getLast?.elim false Text.isWord = false := by
  cases ends : s.above.getLast? with
  | none => rfl
  | some c =>
      obtain ⟨line, cut⟩ := List.getLast?_eq_some_iff.1 ends
      cases visible : Text.isBlank c with
      | true => exact isWord_of_isBlank visible
      | false =>
          obtain ⟨_, _, feed, _, none⟩ := exists_feed visible cut
          obtain ⟨rfl, _⟩ := List.append_eq_nil_iff.1 none.symm
          cases feed

def Around (s : TypeImport) (found : LibraryImport) : Prop :=
  found.before ++ (found.opening ++ found.names) = s.above ++ (s.opening ++ s.names)

inductive Meets (s : TypeImport) (found : LibraryImport) : Prop
  | higher (rest : Text) (cut : s.above =
      found.before ++ (found.opening ++ (found.names ++ (found.closing ++ rest))))
  | around (reaches : Around s found)
  | lower (rest : Text) (before : found.before = s.above ++ (s.statement ++ rest))

theorem feed_not_mem_opened {line : Text} (unbroken : '\n' ∉ line) : '\n' ∉ line ++ [openBrace] := by
  rw [List.mem_append, not_or]
  exact ⟨unbroken, by decide⟩

theorem exists_line_end {between : Text} (below : s.below = between ++ openBrace :: after) :
    ∃ ends past, between = ends ++ '\n' :: past := by
  obtain ⟨ends, rest, marks, stops, split⟩ := s.stop
  have apart : openBrace ∉ ends := by
    intro member
    rcases marks _ member with blank | mark
    · exact absurd blank (by decide)
    · exact absurd mark (by decide)
  obtain ⟨past, rfl, rest_eq⟩ := Text.exists_beyond apart (below.symm.trans split)
  rcases stops with none | feed
  · simp [none] at rest_eq
  · cases past with
    | nil =>
        rw [rest_eq] at feed
        exact absurd (Option.some.inj feed) (by decide)
    | cons c past =>
        rw [rest_eq] at feed
        exact ⟨ends, past, by rw [Option.some.inj feed]⟩

theorem before_of_opening_below {between : Text} (opens : Opens found.opening)
    (below : s.below = between ++ openBrace :: after)
    (reaches : found.before ++ found.opening =
      s.above ++ (s.statement ++ (between ++ [openBrace]))) :
    ∃ rest, found.before = s.above ++ (s.statement ++ rest) := by
  obtain ⟨ends, past, rfl⟩ := exists_line_end below
  obtain ⟨blanks, line, _, blank, _, unbroken, _, opening⟩ := opens
  obtain ⟨front, mark, quote, statement⟩ := s.exists_statement
  -- the line feed stands among the blanks behind the keyword, and no quote goes before it there
  have split : s.above ++ (s.statement ++ ends) ++ '\n' :: (past ++ [openBrace]) =
      found.before ++ ("import".toList ++ blanks) ++ (line ++ [openBrace]) := by
    rw [opening] at reaches
    simpa using reaches.symm
  obtain ⟨between, within, _⟩ := Text.exists_within (feed_not_mem_opened unbroken) split
  have keyword : mark ∉ "import".toList ++ blanks := by
    rw [List.mem_append, not_or]
    refine ⟨fun member => ?_, not_mem_of_blank blank (LibraryImport.blank_of_isQuote quote)⟩
    have apart : "import".toList.any LibraryImport.isQuote = false := by decide
    exact List.any_eq_false.1 apart mark member quote
  have split : s.above ++ front ++ mark :: (ends ++ '\n' :: between) =
      found.before ++ ("import".toList ++ blanks) := by
    rw [within, statement]
    simp
  obtain ⟨rest, before, _⟩ := Text.exists_within keyword split
  exact ⟨rest, by rw [before, statement]; simp⟩

theorem over_of_closing_above {past : Text} (closes : Closes found.closing)
    (cut : s.above = found.before ++ (found.opening ++ found.names) ++ closeBrace :: past)
    (behind : found.closing ++ found.after =
      closeBrace :: (past ++ (s.opening ++ (s.names ++ (s.closing ++ s.below))))) :
    ∃ rest, s.above =
      found.before ++ (found.opening ++ (found.names ++ (found.closing ++ rest))) := by
  obtain ⟨_, ⟨own, clause, unbroken, source, rfl⟩, closing⟩ := closes
  obtain ⟨front, indent, feed, _, past_eq⟩ := exists_feed (c := closeBrace) (by decide) cut
  have split : past ++ 'i' :: 'm' :: ("port".toList ++ (s.blanks ++ ("type".toList ++
      (s.gap ++ openBrace :: (s.names ++ (s.closing ++ s.below)))))) =
      own ++ (clause ++ found.after) := by
    rw [closing] at behind
    simpa [opening_eq] using (List.cons.inj behind).2.symm
  rcases List.append_eq_append_iff.1 split with ⟨more, own_eq, _⟩ | ⟨more, rfl, source_behind⟩
  · exact absurd (by simp [own_eq, past_eq, List.mem_of_getLast? feed]) unbroken
  · obtain ⟨rest, rfl⟩ := LibraryImport.source_ends_before_import source source_behind.symm
    refine ⟨rest, ?_⟩
    rw [cut, closing]
    simp

theorem meets_of_opening_above {more : Text} (names : closeBrace ∉ found.names)
    (closes : Closes found.closing)
    (above : s.above ++ s.opening = found.before ++ found.opening ++ more)
    (behind : found.names ++ (found.closing ++ found.after) =
      more ++ (s.names ++ (s.closing ++ s.below))) : Meets s found := by
  have ⟨reach, _, closing⟩ := closes
  rcases LibraryImport.exists_names more with none | ⟨inner, past, none, rfl⟩
  · have none' : closeBrace ∉ more ++ s.names := by
      rw [List.mem_append, not_or]
      exact ⟨none, s.unclosed⟩
    have same : found.names ++ closeBrace :: (reach ++ found.after) =
        more ++ s.names ++ closeBrace :: (s.lead ++ s.clause ++ s.below) := by
      rw [closing] at behind
      simpa [TypeImport.closing] using behind
    obtain ⟨names, _⟩ := LibraryImport.names_unique names none' same
    refine .around ?_
    unfold Around
    rw [names, ← List.append_assoc, ← List.append_assoc, ← above]
    simp
  · have same : found.names ++ closeBrace :: (reach ++ found.after) =
        inner ++ closeBrace :: (past ++ (s.names ++ (s.closing ++ s.below))) := by
      rw [closing] at behind
      simpa using behind
    obtain ⟨rfl, tail⟩ := LibraryImport.names_unique names none same
    rw [← List.append_assoc] at above
    obtain ⟨past, cut, rfl⟩ := Text.exists_within s.closeBrace_not_mem_opening above.symm
    have cut : s.above =
        found.before ++ (found.opening ++ found.names) ++ closeBrace :: past := by
      rw [cut]
      simp
    obtain ⟨rest, cut⟩ := over_of_closing_above closes cut (by
      rw [closing, List.cons_append, tail]
      simp)
    exact .higher rest cut

theorem meets_of_stands (h : Stands s.text found) : Meets s found := by
  obtain ⟨line, opened⟩ := LibraryImport.exists_opening h.opens
  have split : s.above ++ s.opening ++ (s.names ++ (s.closing ++ s.below)) =
      found.before ++ found.opening ++ (found.names ++ (found.closing ++ found.after)) := by
    have cut := h.cut
    unfold text statement LibraryImport.text at cut
    simpa using cut
  rcases List.append_eq_append_iff.1 split with ⟨more, beyond, behind⟩ | ⟨more, above, behind⟩
  · rcases List.eq_nil_or_concat more with rfl | ⟨more, c, rfl⟩
    · rw [List.append_nil] at beyond
      have above : s.above ++ s.opening = found.before ++ found.opening ++ [] := by
        rw [beyond, List.append_nil]
      exact meets_of_opening_above h.names h.closes above (by simpa using behind.symm)
    · -- the opening brace stands below the import
      rw [List.concat_eq_append] at *
      have brace : c = openBrace := by
        have ends := congrArg List.getLast? beyond
        rw [opened, ← List.append_assoc, ← List.append_assoc, List.getLast?_concat,
          List.getLast?_concat] at ends
        exact (Option.some.inj ends).symm
      subst brace
      have apart : openBrace ∉ s.names ++ s.closing := by
        rw [List.mem_append, not_or]
        exact ⟨s.unopened, s.openBrace_not_mem_closing⟩
      have split : more ++ openBrace :: (found.names ++ (found.closing ++ found.after)) =
          s.names ++ s.closing ++ s.below := by
        simpa using behind.symm
      obtain ⟨between, rfl, below⟩ := Text.exists_beyond apart split
      obtain ⟨rest, before⟩ := before_of_opening_below h.opens below
        (by rw [beyond]; simp [statement])
      exact .lower rest before
  · exact meets_of_opening_above h.names h.closes above behind

/-- How an opening of an import comes to reach the names. -/
inductive Reached (s : TypeImport) : Prop
  | spaced (unbroken : '\n' ∉ s.gap) (two : 2 ≤ s.blanks.length)
      (last : s.blanks.getLast? ≠ some '\n')
  | behindKeyword (front blanks : Text)
      (apart : front.getLast?.elim false Text.isWord = false) (some_blank : blanks ≠ [])
      (blank : Text.allBlank blanks = true) (cut : s.above = front ++ ("import".toList ++ blanks))
      (unbroken : '\n' ∉ s.blanks ++ s.gap)
  | inBraces (front opening rest : Text)
      (apart : front.getLast?.elim false Text.isWord = false) (opens : Opens opening)
      (cut : s.above = front ++ (opening ++ rest)) (unclosed : closeBrace ∉ rest)

def Opened (s : TypeImport) (front opening rest : Text) : Prop :=
  front.getLast?.elim false Text.isWord = false ∧ Opens opening ∧ closeBrace ∉ rest ∧
    s.above ++ s.opening = front ++ (opening ++ rest)

theorem exists_opened (h : Reached s) : ∃ front opening rest, Opened s front opening rest := by
  cases h with
  | spaced unbroken two last =>
      refine ⟨s.above, s.opening, [], s.apart_above, ?_, List.not_mem_nil, by simp⟩
      refine ⟨s.blanks, "type".toList ++ s.gap, s.some_blank, s.blank, rfl, ?_,
        fun _ => ⟨two, last⟩, by simp [opening_eq]⟩
      rw [List.mem_append, not_or]
      exact ⟨by decide, unbroken⟩
  | behindKeyword front blanks apart some_blank blank cut unbroken =>
      refine ⟨front, "import".toList ++ (blanks ++ s.opening), [], apart, ?_, List.not_mem_nil,
        by simp [cut]⟩
      refine ⟨blanks, "import".toList ++ (s.blanks ++ ("type".toList ++ s.gap)), some_blank, blank,
        rfl, ?_, fun type => ?_, by simp [opening_eq]⟩
      · simp only [List.mem_append, not_or] at unbroken ⊢
        exact ⟨by decide, unbroken.1, by decide, unbroken.2⟩
      · cases type
  | inBraces front opening rest apart opens cut unclosed =>
      refine ⟨front, opening, rest ++ s.opening, apart, opens, ?_, by simp [cut]⟩
      rw [List.mem_append, not_or]
      exact ⟨unclosed, s.closeBrace_not_mem_opening⟩

theorem exists_blank_last {more : Text} (some_more : more ≠ []) (cut : s.above = before ++ more) :
    ∃ front c, more = front ++ [c] ∧ Text.isBlank c = true := by
  rcases List.eq_nil_or_concat more with rfl | ⟨front, c, rfl⟩
  · exact absurd rfl some_more
  · rw [List.concat_eq_append] at *
    refine ⟨front, c, rfl, ?_⟩
    cases visible : Text.isBlank c with
    | true => rfl
    | false =>
        obtain ⟨_, _, feed, _, none⟩ := exists_feed visible (by rw [cut, ← List.append_assoc])
        obtain ⟨rfl, _⟩ := List.append_eq_nil_iff.1 none.symm
        cases feed

theorem spaced_of_same {blanks line : Text} (some_blank : blanks ≠ [])
    (blank : Text.allBlank blanks = true)
    (ends : (line ++ [openBrace]).head?.any Text.isBlank = false) (unbroken : '\n' ∉ line)
    (type : LibraryImport.startsType (line ++ [openBrace]) = true →
      2 ≤ blanks.length ∧ blanks.getLast? ≠ some '\n')
    (same : s.blanks ++ ("type".toList ++ (s.gap ++ [openBrace])) =
      blanks ++ (line ++ [openBrace])) : Reached s := by
  have ends' : ("type".toList ++ (s.gap ++ [openBrace])).head?.any Text.isBlank = false := rfl
  have run := Text.run?_append s.some_blank (List.all_eq_true.1 s.blank) ends'
  rw [same, Text.run?_append some_blank (List.all_eq_true.1 blank) ends] at run
  obtain ⟨rfl, line_eq⟩ := Prod.mk.inj (Option.some.inj run)
  have typed : LibraryImport.startsType (line ++ [openBrace]) = true := by
    rw [line_eq]
    cases gap : s.gap with
    | nil => rfl
    | cons c rest =>
        have blank : Text.isBlank c = true := List.all_eq_true.1 s.gap_blank c (by simp [gap])
        have word : Text.isWord c = false := isWord_of_isBlank blank
        simp [LibraryImport.startsType, Text.after?, word]
  obtain ⟨two, last⟩ := type typed
  refine .spaced (fun feed => ?_) two last
  exact feed_not_mem_opened unbroken (by simp [line_eq, feed])

theorem opening_of_blanks {front blanks line inner : Text} {c : Char}
    (blank : Text.allBlank blanks = true)
    (ends : (line ++ [openBrace]).head?.any Text.isBlank = false) (unbroken : '\n' ∉ line)
    (above : s.above = front ++ ("import".toList ++ (inner ++ [c])))
    (same : blanks ++ (line ++ [openBrace]) = inner ++ [c] ++ s.opening) :
    blanks = inner ++ [c] ∧ line ++ [openBrace] = s.opening := by
  rcases List.append_eq_append_iff.1 same with
    ⟨past, inner_eq, line_eq⟩ | ⟨past, blanks_eq, tail⟩
  · cases past with
    | nil => exact ⟨by simpa using inner_eq.symm, by simpa using line_eq⟩
    | cons d past =>
        -- the line would go on behind a visible character up to the last line feed above
        have visible : Text.isBlank d = false := by
          rw [line_eq] at ends
          exact ends
        have cut : s.above = front ++ ("import".toList ++ blanks) ++ d :: past := by
          rw [above, inner_eq]
          simp
        obtain ⟨_, _, feed, _, past_eq⟩ := exists_feed visible cut
        refine absurd ?_ (feed_not_mem_opened unbroken)
        rw [line_eq, past_eq]
        simp [List.mem_of_getLast? feed]
  · cases past with
    | nil => exact ⟨by simpa using blanks_eq, by simpa using tail.symm⟩
    | cons d past =>
        have own : d = 'i' := by
          rw [opening_eq] at tail
          exact (List.cons.inj tail).1.symm
        have member : 'i' ∈ blanks := by
          rw [blanks_eq, own]
          simp
        exact absurd member (not_mem_of_blank blank (by decide))

theorem behindKeyword_of_same {front blanks line more : Text} {c : Char} (some_blank : blanks ≠ [])
    (blank : Text.allBlank blanks = true)
    (apart : front.getLast?.elim false Text.isWord = false)
    (ends : (line ++ [openBrace]).head?.any Text.isBlank = false) (unbroken : '\n' ∉ line)
    (above : s.above = front ++ (more ++ [c])) (blank_c : Text.isBlank c = true)
    (same : "import".toList ++ (blanks ++ (line ++ [openBrace])) = more ++ c :: s.opening) :
    Reached s := by
  have keyword : c ∉ "import".toList := by
    intro member
    have visible : "import".toList.any Text.isBlank = false := by decide
    exact List.any_eq_false.1 visible c member blank_c
  obtain ⟨inner, rfl, behind⟩ := Text.exists_beyond keyword same.symm
  rw [List.append_assoc] at above
  obtain ⟨rfl, line_eq⟩ := opening_of_blanks blank ends unbroken above (by simpa using behind)
  refine .behindKeyword front (inner ++ [c]) apart some_blank blank above ?_
  have line_eq : line = "import".toList ++ (s.blanks ++ ("type".toList ++ s.gap)) := by
    refine List.append_cancel_right (line_eq.trans ?_)
    simp [opening_eq]
  rw [line_eq] at unbroken
  simp only [List.mem_append, not_or] at unbroken ⊢
  exact ⟨unbroken.2.1, unbroken.2.2.2⟩

theorem reached_of_shared_brace {front opening : Text} (opens : Opens opening)
    (apart : front.getLast?.elim false Text.isWord = false)
    (reaches : s.above ++ s.opening = front ++ opening) : Reached s := by
  obtain ⟨blanks, line, some_blank, blank, ends, unbroken, type, rfl⟩ := opens
  rcases List.append_eq_append_iff.1 reaches with ⟨more, rfl, behind⟩ | ⟨more, above, behind⟩
  · cases more with
    | nil =>
        exact spaced_of_same some_blank blank ends unbroken type (List.append_cancel_left behind)
    | cons c more =>
        -- the keyword has one `i` only
        have once :
            'i' ∉ "mport".toList ++ (s.blanks ++ ("type".toList ++ (s.gap ++ [openBrace]))) := by
          simp only [List.mem_append, not_or]
          exact ⟨by decide, not_mem_of_blank s.blank (by decide), by decide,
            not_mem_of_blank s.gap_blank (by decide), by decide⟩
        have tail : "mport".toList ++ (s.blanks ++ ("type".toList ++ (s.gap ++ [openBrace]))) =
            more ++ ("import".toList ++ (blanks ++ (line ++ [openBrace]))) :=
          (List.cons.inj behind).2
        rw [tail] at once
        simp at once
  · by_cases empty : more = []
    · subst empty
      exact spaced_of_same some_blank blank ends unbroken type (List.append_cancel_left behind.symm)
    · obtain ⟨more, c, rfl, blank_c⟩ := exists_blank_last empty above
      exact behindKeyword_of_same some_blank blank apart ends unbroken above blank_c
        (by simpa using behind)

theorem reached_iff : Reached s ↔ ∃ front opening rest, Opened s front opening rest := by
  refine ⟨exists_opened, ?_⟩
  rintro ⟨front, opening, rest, apart, opens, unclosed, reaches⟩
  rcases List.eq_nil_or_concat rest with rfl | ⟨rest, c, rfl⟩
  · exact reached_of_shared_brace opens apart (by simpa using reaches)
  · rw [List.concat_eq_append] at *
    obtain ⟨line, own, absent⟩ := s.exists_opening
    obtain ⟨line', opened⟩ := LibraryImport.exists_opening opens
    rw [own, ← List.append_assoc, ← List.append_assoc, ← List.append_assoc] at reaches
    have above := (List.append_inj' reaches rfl).1
    rw [opened] at above
    have split : front ++ line' ++ openBrace :: rest = s.above ++ line := by
      rw [above]
      simp
    obtain ⟨between, cut, rfl⟩ := Text.exists_within absent split
    refine .inBraces front opening between apart opens ?_ ?_
    · rw [cut, opened]
      simp
    · simp only [List.mem_append, not_or] at unclosed
      exact unclosed.1.1

theorem closing_of_around (stands : Stands s.text found) (around : Around s found) :
    found.closing ++ found.after = s.closing ++ s.below := by
  have cut : s.above ++ (s.opening ++ s.names) ++ (s.closing ++ s.below) =
      found.before ++ (found.opening ++ found.names) ++ (found.closing ++ found.after) := by
    have cut := stands.cut
    unfold text statement LibraryImport.text at cut
    simpa using cut
  rw [← around] at cut
  exact (List.append_cancel_left cut).symm

theorem exists_stands_around (unbroken : '\n' ∉ s.lead) (h : Reached s) :
    ∃ found, Stands s.text found ∧ Around s found := by
  obtain ⟨front, opening, rest, apart, opens, unclosed, reaches⟩ := exists_opened h
  refine ⟨⟨front, opening, rest ++ s.names, s.closing, s.below⟩, ⟨apart, ?_, opens, ?_, ?_⟩, ?_⟩
  · have split : s.text = s.above ++ s.opening ++ (s.names ++ (s.closing ++ s.below)) := by
      simp [text, statement]
    rw [split, reaches, LibraryImport.text]
    simp
  · rw [List.mem_append, not_or]
    exact ⟨unclosed, s.unclosed⟩
  · exact ⟨s.lead ++ s.clause, ⟨s.lead, s.clause, unbroken, s.source, rfl⟩, rfl⟩
  · unfold Around
    rw [← List.append_assoc s.above, reaches]
    simp

theorem exists_names_behind (opens : Opens found.opening) (around : Around s found) : ∃ between,
    s.above ++ s.opening = found.before ++ (found.opening ++ between) ∧
      found.names = between ++ s.names := by
  obtain ⟨line, opened⟩ := LibraryImport.exists_opening opens
  have split : found.before ++ line ++ openBrace :: found.names =
      s.above ++ s.opening ++ s.names := by
    unfold Around at around
    rw [opened] at around
    simpa using around
  obtain ⟨between, reaches, names⟩ := Text.exists_within s.unopened split
  refine ⟨between, ?_, names⟩
  rw [reaches, opened]
  simp

theorem reached_of_around (stands : Stands s.text found) (around : Around s found) :
    '\n' ∉ s.lead ∧ Reached s := by
  constructor
  · obtain ⟨_, ⟨own, clause, unbroken, source, rfl⟩, closing⟩ := stands.closes
    have behind := closing_of_around stands around
    rw [closing] at behind
    have behind : own ++ (clause ++ found.after) = s.lead ++ (s.clause ++ s.below) := by
      simpa [TypeImport.closing] using behind
    intro feed
    obtain ⟨above, below, lead⟩ := List.append_of_mem feed
    rw [lead, List.append_assoc, List.cons_append] at behind
    -- the clause would start with a blank
    obtain ⟨between, above_eq, clause_eq⟩ := Text.exists_beyond unbroken behind.symm
    obtain ⟨word, rfl, _⟩ := LibraryImport.source_starts source
    cases between with
    | nil => exact absurd (List.cons.inj clause_eq).1 (by decide)
    | cons c between =>
        obtain rfl := (List.cons.inj clause_eq).1
        refine not_mem_of_blank s.lead_blank (c := 'f') (by decide) ?_
        rw [lead, above_eq]
        simp
  · obtain ⟨between, reaches, names⟩ := exists_names_behind stands.opens around
    refine reached_iff.2
      ⟨found.before, found.opening, between, stands.apart, stands.opens, fun member => ?_, reaches⟩
    exact stands.names (by rw [names]; exact List.mem_append_left _ member)

/-- An opening reaches the names, the `from` clause is on the line of the closing brace, and there
is no import above that would be widened instead. -/
structure Exposed (s : TypeImport) : Prop where
  alone : ∀ found, ¬ Stands s.above found
  unbroken : '\n' ∉ s.lead
  reached : Reached s

theorem over_of_stands_above {inner : LibraryImport} (inside : Stands s.above inner)
    (first : LibraryImport.find? s.text = some found) : ¬ Around s found := by
  intro around
  obtain ⟨stands, least⟩ := LibraryImport.find?_eq_some_iff.1 first
  have within : Stands s.text { inner with after := inner.after ++ (s.statement ++ s.below) } :=
    LibraryImport.stands_append inside _
  obtain ⟨reach, _, closing⟩ := inside.closes
  have split : inner.before ++ inner.opening ++ inner.names ++
      closeBrace :: (reach ++ inner.after ++ (s.opening ++ s.names)) =
      found.before ++ found.opening ++ found.names := by
    have cut := inside.cut
    rw [LibraryImport.text, closing] at cut
    unfold Around at around
    rw [cut] at around
    simpa using around.symm
  obtain ⟨between, beyond, _⟩ := Text.exists_within stands.names split
  have beyond : found.before ++ found.opening =
      inner.before ++ inner.opening ++ (inner.names ++ closeBrace :: between) := by
    rw [beyond]
    simp
  have size := congrArg List.length beyond
  simp only [List.length_append, List.length_cons] at size
  by_cases start : found.before.length < inner.before.length
  · obtain ⟨shorter, stands', before, opening⟩ :=
      LibraryImport.exists_stands_of_beyond within stands.apart stands.opens start _ beyond
    refine least shorter stands' (.inr ⟨by rw [before], .inl ?_⟩)
    rw [opening, List.length_append, List.length_append, List.length_cons]
    omega
  · refine least _ within ?_
    unfold Earlier
    simp only
    omega

theorem around_iff (first : LibraryImport.find? s.text = some found) :
    Around s found ↔ Exposed s := by
  obtain ⟨stands, least⟩ := LibraryImport.find?_eq_some_iff.1 first
  constructor
  · intro around
    obtain ⟨unbroken, reached⟩ := reached_of_around stands around
    exact ⟨fun inner inside => over_of_stands_above inside first around, unbroken, reached⟩
  · rintro ⟨alone, unbroken, reached⟩
    cases meets_of_stands stands with
    | around around => exact around
    | higher rest cut =>
        refine absurd ⟨stands.apart, ?_, stands.opens, stands.names, stands.closes⟩
          (alone { found with after := rest })
        rw [cut, LibraryImport.text]
        simp
    | lower rest before =>
        obtain ⟨other, stands', around⟩ := exists_stands_around unbroken reached
        have size := congrArg List.length around
        have size' := congrArg List.length before
        simp only [List.length_append, statement] at size size'
        refine absurd (.inl ?_) (least other stands')
        obtain ⟨line, opening⟩ := LibraryImport.exists_opening stands'.opens
        rw [opening, List.length_append, List.length_singleton] at size
        omega

end TypeImport

end DiagnosticRepair
