import DiagnosticRepair.Proofs.Text.Occurrence
import DiagnosticRepair.Proofs.Text.Reading
import DiagnosticRepair.Source.LibraryImport

namespace DiagnosticRepair

namespace LibraryImport

variable {text names closing after clause other rest : Text} {found : LibraryImport}

def IsSource (clause : Text) : Prop :=
  ∃ blanks opened closed, Text.allBlank blanks = true ∧ isQuote opened = true ∧
    isQuote closed = true ∧
    clause = "from".toList ++ (blanks ++ opened :: (Conventions.testingLibrary ++ [closed]))

theorem blank_of_isQuote {c : Char} (h : isQuote c = true) : Text.isBlank c = false := by
  unfold isQuote at h
  rw [Bool.or_eq_true, beq_iff_eq, beq_iff_eq] at h
  rcases h with rfl | rfl <;> decide

theorem afterSource?_eq_some_iff :
    afterSource? text = some after ↔ ∃ clause, IsSource clause ∧ text = clause ++ after := by
  constructor
  · intro h
    unfold afterSource? at h
    cases start : Text.after? "from".toList text with
    | none =>
        rw [start] at h
        cases h
    | some first =>
        obtain ⟨blanks, blank, skipped⟩ := Text.exists_trimStart first
        simp only [start, Option.bind_eq_bind, Option.bind_some] at h
        cases marked : Text.trimStart first with
        | nil => simp [marked] at h
        | cons opened quoted =>
            rw [marked] at h skipped
            cases quote : isQuote opened with
            | false => simp [quote] at h
            | true =>
                cases named : Text.after? Conventions.testingLibrary quoted with
                | none => simp [quote, named] at h
                | some last =>
                    cases last with
                    | nil => simp [quote, named] at h
                    | cons closed behind =>
                        cases quote' : isQuote closed with
                        | false => simp [quote, named, quote'] at h
                        | true =>
                            have same : behind = after := by simpa [quote, named, quote'] using h
                            subst same
                            refine ⟨_, ⟨blanks, opened, closed, blank, quote, quote', rfl⟩, ?_⟩
                            rw [Text.eq_append_of_after? start, skipped,
                              Text.eq_append_of_after? named]
                            simp
  · rintro ⟨_, ⟨blanks, opened, closed, blank, quote, quote', rfl⟩, rfl⟩
    unfold afterSource?
    simp only [List.append_assoc, Text.after?_append, Option.bind_eq_bind, Option.bind_some,
      List.cons_append, Text.trimStart_append blank (blank_of_isQuote quote), quote, if_true,
      List.nil_append, quote']

theorem mem_source {c : Char} (h : IsSource clause) (member : c ∈ clause) :
    Text.isBlank c = true ∨ c ∈ "from'\"@testing-library/react".toList := by
  obtain ⟨blanks, opened, closed, blank, quote, quote', rfl⟩ := h
  have marks : ∀ mark, isQuote mark = true → mark ∈ "from'\"@testing-library/react".toList := by
    intro mark quoted
    unfold isQuote at quoted
    rw [Bool.or_eq_true, beq_iff_eq, beq_iff_eq] at quoted
    rcases quoted with rfl | rfl <;> decide
  have word : "from".toList ⊆ "from'\"@testing-library/react".toList := by decide
  have library : Conventions.testingLibrary ⊆ "from'\"@testing-library/react".toList := by decide
  simp only [List.mem_append, List.mem_cons, List.not_mem_nil, or_false] at member
  rcases member with member | member | rfl | member | rfl
  · exact .inr (word member)
  · exact .inl (List.all_eq_true.1 blank c member)
  · exact .inr (marks c quote)
  · exact .inr (library member)
  · exact .inr (marks c quote')

theorem source_starts (h : IsSource clause) : ∃ rest, clause = 'f' :: rest ∧ 'f' ∉ rest := by
  obtain ⟨blanks, opened, closed, blank, quote, quote', rfl⟩ := h
  refine ⟨"rom".toList ++ (blanks ++ opened :: (Conventions.testingLibrary ++ [closed])), rfl,
    fun member => ?_⟩
  have marks : ∀ mark, isQuote mark = true → 'f' ≠ mark := by
    rintro mark quoted rfl
    revert quoted
    decide
  simp only [List.mem_append, List.mem_cons, List.not_mem_nil, or_false] at member
  rcases member with member | member | member | member | member
  · exact absurd member (by decide)
  · exact absurd (List.all_eq_true.1 blank _ member) (by decide)
  · exact marks opened quote member
  · exact absurd member (by decide)
  · exact marks closed quote' member

theorem length_source_unique (h : IsSource clause) (h' : IsSource other)
    (same : clause ++ after = other ++ rest) : clause.length = other.length := by
  have first := afterSource?_eq_some_iff.2 ⟨clause, h, (rfl : clause ++ after = _)⟩
  have second := afterSource?_eq_some_iff.2 ⟨other, h', same⟩
  rw [first] at second
  have := congrArg List.length same
  rw [Option.some.inj second] at this
  simpa using this

def ReachesSource (reach : Text) : Prop :=
  ∃ line clause, '\n' ∉ line ∧ IsSource clause ∧ reach = line ++ clause

theorem cutSource?_cons_of_source {c : Char} (h : afterSource? (c :: text) = some after) :
    ∃ clause, IsSource clause ∧ c :: text = clause ++ after ∧
      cutSource? (c :: text) = some (clause, after) := by
  obtain ⟨clause, source, split⟩ := afterSource?_eq_some_iff.1 h
  refine ⟨clause, source, split, ?_⟩
  have size : text.length + 1 - after.length = clause.length := by
    have := congrArg List.length split
    simp at this
    omega
  rw [cutSource?, h]
  simp only [size]
  rw [split, List.take_left]

theorem cutSource?_cons_of_none {c : Char} (h : afterSource? (c :: text) = none) :
    cutSource? (c :: text) = if c = '\n' then none
      else (cutSource? text).map fun (clause, after) => (c :: clause, after) := by
  rw [cutSource?, h]

theorem cutSource?_sound (h : cutSource? text = some (closing, after)) :
    ReachesSource closing ∧ text = closing ++ after ∧
      ∀ other rest, ReachesSource other → text = other ++ rest → closing.length ≤ other.length := by
  induction text generalizing closing with
  | nil => cases h
  | cons c text ih =>
      cases here : afterSource? (c :: text) with
      | some behind =>
          obtain ⟨clause, source, split, cut⟩ := cutSource?_cons_of_source here
          rw [cut] at h
          obtain ⟨rfl, rfl⟩ := Prod.mk.inj (Option.some.inj h)
          refine ⟨⟨[], clause, List.not_mem_nil, source, rfl⟩, split, ?_⟩
          rintro _ rest ⟨line, clause', unbroken, source', rfl⟩ split'
          rw [split] at split'
          cases line with
          | nil => exact Nat.le_of_eq (length_source_unique source source' split')
          | cons d line =>
              -- a later clause starts behind the end of this one, which has no second `f`
              obtain ⟨word, rfl, once⟩ := source_starts source
              obtain ⟨word', rfl, _⟩ := source_starts source'
              simp only [List.cons_append, List.cons.injEq, List.append_assoc] at split'
              rcases List.append_eq_append_iff.1 split'.2 with ⟨more, rfl, _⟩ | ⟨more, inside, rest_eq⟩
              · simp
              · cases more with
                | nil => simp [inside]
                | cons e more =>
                    have same := (List.cons.inj rest_eq).1
                    exact absurd (by simp [inside, ← same]) once
      | none =>
          rw [cutSource?_cons_of_none here] at h
          split at h
          · cases h
          · rename_i apart
            obtain ⟨⟨clause, behind⟩, later, same⟩ := Option.map_eq_some_iff.1 h
            obtain ⟨rfl, rfl⟩ := Prod.mk.inj same
            obtain ⟨⟨line, source, unbroken, isSource, rfl⟩, rfl, least⟩ := ih later
            refine ⟨⟨c :: line, source, ?_, isSource, rfl⟩, rfl, ?_⟩
            · rw [List.mem_cons, not_or]
              exact ⟨Ne.symm apart, unbroken⟩
            · rintro _ rest ⟨line', source', unbroken', isSource', rfl⟩ split'
              cases line' with
              | nil =>
                  have := afterSource?_eq_some_iff.2 ⟨source', isSource', split'⟩
                  rw [here] at this
                  cases this
              | cons d line' =>
                  simp only [List.cons_append, List.cons.injEq] at split'
                  have := least (line' ++ source') rest
                    ⟨line', source', fun member => unbroken' (List.mem_cons_of_mem _ member),
                      isSource', rfl⟩ split'.2
                  simpa using this

theorem exists_cutSource? (h : ReachesSource closing) (split : text = closing ++ after) :
    ∃ found, cutSource? text = some found := by
  obtain ⟨line, source, unbroken, isSource, rfl⟩ := h
  induction line generalizing text with
  | nil =>
      have found := afterSource?_eq_some_iff.2 ⟨source, isSource, split⟩
      cases text with
      | nil =>
          obtain ⟨_, rfl, _⟩ := source_starts isSource
          cases split
      | cons c text =>
          obtain ⟨_, _, _, cut⟩ := cutSource?_cons_of_source found
          exact ⟨_, cut⟩
  | cons c line ih =>
      rw [List.mem_cons, not_or] at unbroken
      subst split
      cases here : afterSource? (c :: (line ++ source ++ after)) with
      | some behind =>
          obtain ⟨_, _, _, cut⟩ := cutSource?_cons_of_source here
          exact ⟨_, cut⟩
      | none =>
          obtain ⟨found, cut⟩ := ih unbroken.2 rfl
          refine ⟨(c :: found.1, found.2), ?_⟩
          show cutSource? (c :: (line ++ source ++ after)) = _
          rw [cutSource?_cons_of_none here, if_neg (Ne.symm unbroken.1), cut]
          rfl

def Closes (closing : Text) : Prop :=
  ∃ reach, ReachesSource reach ∧ closing = closeBrace :: reach

theorem getLast?_closing (h : Closes closing) :
    ∃ mark, isQuote mark = true ∧ closing.getLast? = some mark := by
  obtain ⟨_, ⟨line, _, _, ⟨blanks, opened, closed, _, _, quote, rfl⟩, rfl⟩, rfl⟩ := h
  refine ⟨closed, quote, ?_⟩
  have split : closeBrace :: (line ++ ("from".toList ++
      (blanks ++ opened :: (Conventions.testingLibrary ++ [closed])))) =
      closeBrace :: (line ++ "from".toList ++ blanks ++ opened :: Conventions.testingLibrary) ++
        [closed] := by simp
  rw [split, List.getLast?_concat]

theorem bne_closeBrace (h : closeBrace ∉ names) : ∀ c ∈ names, (c != closeBrace) = true := by
  intro c member
  rw [bne_iff_ne]
  rintro rfl
  exact h member

theorem takeWhile_names (h : closeBrace ∉ names) (rest : Text) :
    (names ++ closeBrace :: rest).takeWhile (· != closeBrace) = names := by
  rw [List.takeWhile_append_of_pos (bne_closeBrace h)]
  simp

theorem names_unique (h : closeBrace ∉ names) (h' : closeBrace ∉ other)
    (same : names ++ closeBrace :: after = other ++ closeBrace :: rest) :
    names = other ∧ after = rest := by
  have first := takeWhile_names h after
  rw [same, takeWhile_names h'] at first
  subst first
  exact ⟨rfl, (List.cons.inj (List.append_cancel_left same)).2⟩

theorem readNames?_of_names (h : closeBrace ∉ names) (rest : Text) :
    readNames? (names ++ closeBrace :: rest) =
      (cutSource? rest).map fun (clause, after) => (names, closeBrace :: clause, after) := by
  have behind : (names ++ closeBrace :: rest).dropWhile (· != closeBrace) = closeBrace :: rest := by
    rw [List.dropWhile_append_of_pos (bne_closeBrace h)]
    simp
  unfold readNames?
  rw [takeWhile_names h, behind]

theorem exists_names (text : Text) : closeBrace ∉ text ∨
    ∃ names rest, closeBrace ∉ names ∧ text = names ++ closeBrace :: rest := by
  by_cases brace : closeBrace ∈ text
  · obtain ⟨names, rest, rfl, first⟩ := List.eq_append_cons_of_mem brace
    exact .inr ⟨names, rest, first, rfl⟩
  · exact .inl brace

theorem readNames?_sound (h : readNames? text = some (names, closing, after)) :
    closeBrace ∉ names ∧ Closes closing ∧ text = names ++ (closing ++ after) ∧
      ∀ other rest, Closes other → text = names ++ (other ++ rest) →
        closing.length ≤ other.length := by
  rcases exists_names text with none | ⟨names', rest, apart, rfl⟩
  · have whole : text.dropWhile (· != closeBrace) = [] := by
      have : (text ++ []).dropWhile (· != closeBrace) = [] :=
        List.dropWhile_append_of_pos (bne_closeBrace none)
      rwa [List.append_nil] at this
    unfold readNames? at h
    simp only [whole] at h
    cases h
  · rw [readNames?_of_names apart] at h
    obtain ⟨⟨clause, behind⟩, cut, same⟩ := Option.map_eq_some_iff.1 h
    obtain ⟨rfl, rfl, rfl⟩ : names' = names ∧ closeBrace :: clause = closing ∧ behind = after := by
      simpa using same
    obtain ⟨reaches, rfl, least⟩ := cutSource?_sound cut
    refine ⟨apart, ⟨clause, reaches, rfl⟩, rfl, ?_⟩
    rintro _ rest ⟨reach, reaches', rfl⟩ split
    have split := (List.cons.inj (List.append_cancel_left split)).2
    have := least reach rest reaches' split
    simpa using this

theorem exists_readNames? (h : closeBrace ∉ names) (closes : Closes closing) (after : Text) :
    ∃ found, readNames? (names ++ (closing ++ after)) = some found := by
  obtain ⟨reach, reaches, rfl⟩ := closes
  obtain ⟨cut, found⟩ := exists_cutSource? reaches (rfl : reach ++ after = _)
  exact ⟨_, by rw [List.cons_append, readNames?_of_names h, found, Option.map_some]⟩

structure Braced (opens : Text → Prop) (text : Text) (found : LibraryImport) : Prop where
  starts : found.before = []
  cut : text = found.opening ++ (found.names ++ (found.closing ++ found.after))
  opens : opens found.opening
  names : closeBrace ∉ found.names
  closes : Closes found.closing

def OpensLine (opening : Text) : Prop :=
  ∃ line, '\n' ∉ line ∧ opening = line ++ [openBrace]

/-- The import that starts first goes first; of those that start together the one that opens its
braces first, and of those the one that ends first. -/
def Earlier (first second : LibraryImport) : Prop :=
  first.before.length < second.before.length ∨
    first.before.length = second.before.length ∧
      (first.opening.length < second.opening.length ∨
        first.opening.length = second.opening.length ∧
          first.closing.length < second.closing.length)

theorem openOnLine?_of_names {c : Char} (opens : c = openBrace)
    (read : readNames? text = some (names, closing, after)) :
    openOnLine? (c :: text) = some ⟨[], [c], names, closing, after⟩ := by
  rw [openOnLine?, if_pos opens, read]

theorem openOnLine?_cons {c : Char} (h : c = openBrace → readNames? text = none) :
    openOnLine? (c :: text) = if c = '\n' then none
      else (openOnLine? text).map fun found => { found with opening := c :: found.opening } := by
  rw [openOnLine?]
  split
  · rename_i found
    split at found
    · rename_i opens
      rw [h opens] at found
      cases found
    · cases found
  · rfl

theorem braced_cons {c : Char} (h : Braced OpensLine (c :: text) found) :
    (c = openBrace ∧ found.opening = [c] ∧
      text = found.names ++ (found.closing ++ found.after)) ∨
    (c ≠ '\n' ∧ ∃ later, Braced OpensLine text later ∧
      found = { later with opening := c :: later.opening }) := by
  obtain ⟨starts, cut, ⟨line, unbroken, opening⟩, apart, closes⟩ := h
  obtain ⟨before, opened, names, closing, after⟩ := found
  simp only at *
  subst starts opening
  cases line with
  | nil =>
      simp only [List.nil_append, List.singleton_append, List.cons.injEq] at cut
      exact .inl ⟨cut.1, by rw [cut.1]; rfl, cut.2⟩
  | cons d line =>
      rw [List.mem_cons, not_or] at unbroken
      simp only [List.cons_append, List.cons.injEq] at cut
      obtain ⟨rfl, cut⟩ := cut
      exact .inr ⟨Ne.symm unbroken.1, ⟨[], line ++ [openBrace], names, closing, after⟩,
        ⟨rfl, cut, ⟨line, unbroken.2, rfl⟩, apart, closes⟩, rfl⟩

theorem openOnLine?_sound (h : openOnLine? text = some found) :
    Braced OpensLine text found ∧ ∀ other, Braced OpensLine text other → ¬ Earlier other found := by
  induction text generalizing found with
  | nil => cases h
  | cons c text ih =>
      cases here : (if c = openBrace then readNames? text else none) with
      | some read =>
          obtain ⟨names, closing, after⟩ := read
          obtain ⟨rfl, read⟩ : c = openBrace ∧ readNames? text = some (names, closing, after) := by
            split at here
            · exact ⟨by assumption, here⟩
            · cases here
          rw [openOnLine?_of_names rfl read] at h
          obtain rfl := Option.some.inj h
          obtain ⟨apart, closes, split, least⟩ := readNames?_sound read
          refine ⟨⟨rfl, by rw [split]; rfl, ⟨[], List.not_mem_nil, rfl⟩, apart, closes⟩, ?_⟩
          rintro other braced earlier
          rcases braced_cons braced with ⟨_, opening, cut⟩ | ⟨_, later, braced', rfl⟩
          · obtain ⟨reach, _, closing_eq⟩ := closes
            obtain ⟨reach', _, closing_eq'⟩ := braced.closes
            have same : other.names = names := by
              rw [split, closing_eq, closing_eq'] at cut
              exact (names_unique apart braced.names cut).1.symm
            rw [same] at cut
            have := least other.closing other.after braced.closes cut
            simp only [Earlier, opening, braced.starts] at earlier
            omega
          · obtain ⟨line, _, opening⟩ := braced'.opens
            simp only [Earlier, opening, braced'.starts] at earlier
            simp at earlier
      | none =>
          have closed : c = openBrace → readNames? text = none := by
            intro opens
            rwa [if_pos opens] at here
          rw [openOnLine?_cons closed] at h
          split at h
          · cases h
          · rename_i apart
            obtain ⟨later, found_later, rfl⟩ := Option.map_eq_some_iff.1 h
            obtain ⟨braced, least⟩ := ih found_later
            obtain ⟨line, unbroken, opening⟩ := braced.opens
            refine ⟨⟨braced.starts, by rw [braced.cut]; rfl, ⟨c :: line, ?_, ?_⟩, braced.names,
              braced.closes⟩, ?_⟩
            · rw [List.mem_cons, not_or]
              exact ⟨Ne.symm apart, unbroken⟩
            · rw [opening]
              rfl
            · rintro other braced' earlier
              rcases braced_cons braced' with ⟨opens, _, cut⟩ | ⟨_, inner, within, rfl⟩
              · obtain ⟨read, found⟩ := exists_readNames? braced'.names braced'.closes other.after
                rw [← cut, closed opens] at found
                cases found
              · refine least inner within ?_
                unfold Earlier at earlier ⊢
                simp only [List.length_cons] at earlier
                omega

theorem exists_openOnLine? (h : Braced OpensLine text found) : ∃ first, openOnLine? text = some first := by
  induction text generalizing found with
  | nil =>
      obtain ⟨line, _, opening⟩ := h.opens
      have := h.cut
      simp [opening] at this
  | cons c text ih =>
      cases here : (if c = openBrace then readNames? text else none) with
      | some read =>
          obtain ⟨names, closing, after⟩ := read
          split at here
          · rename_i opens
            exact ⟨_, openOnLine?_of_names opens here⟩
          · cases here
      | none =>
          have closed : c = openBrace → readNames? text = none := by
            intro opens
            rwa [if_pos opens] at here
          rcases braced_cons h with ⟨opens, _, cut⟩ | ⟨apart, later, braced, rfl⟩
          · obtain ⟨read, found⟩ := exists_readNames? h.names h.closes found.after
            rw [← cut, closed opens] at found
            cases found
          · obtain ⟨first, found⟩ := ih braced
            exact ⟨_, by rw [openOnLine?_cons closed, if_neg apart, found, Option.map_some]⟩

/-- The keyword, blanks, and on the line on which these end an opening brace. After the word `type`
more than one blank is needed, the last of them being no line feed. -/
def Opens (opening : Text) : Prop :=
  ∃ blanks line, blanks ≠ [] ∧ Text.allBlank blanks = true ∧
    (line ++ [openBrace]).head?.any Text.isBlank = false ∧ '\n' ∉ line ∧
    (startsType (line ++ [openBrace]) = true → 2 ≤ blanks.length ∧ blanks.getLast? ≠ some '\n') ∧
    opening = "import".toList ++ (blanks ++ (line ++ [openBrace]))

theorem startsType_append (line rest : Text) :
    startsType (line ++ openBrace :: rest) = startsType (line ++ [openBrace]) := by
  unfold startsType Text.after?
  rw [Text.isPrefixOf_append_of_not_mem (by decide), Text.isPrefixOf_append_of_not_mem (by decide)]
  cases found : "type".toList.isPrefixOf line with
  | false => rfl
  | true =>
      have long := (List.isPrefixOf_iff_prefix.1 found).length_le
      rw [if_pos rfl, if_pos rfl, List.drop_append_of_le_length long,
        List.drop_append_of_le_length long]
      cases line.drop "type".toList.length <;> rfl

theorem head?_append_brace (line rest : Text) :
    (line ++ openBrace :: rest).head? = (line ++ [openBrace]).head? := by
  cases line <;> rfl

theorem read?_eq {blanks : Text} (some_blank : blanks ≠ []) (blank : Text.allBlank blanks = true)
    (ends : rest.head?.any Text.isBlank = false) :
    read? ("import".toList ++ (blanks ++ rest)) = (openOnLine? rest).bind fun found =>
      if startsType rest && (blanks.length < 2 || blanks.getLast? = some '\n') then none
      else some { found with opening := "import".toList ++ blanks ++ found.opening } := by
  unfold read?
  rw [Text.after?_append]
  simp only [Option.bind_eq_bind, Option.bind_some, Text.run?_append some_blank
    (List.all_eq_true.1 blank) ends]

theorem exists_blanks_of_read? (h : read? text = some found) : ∃ blanks rest, blanks ≠ [] ∧
    Text.allBlank blanks = true ∧ rest.head?.any Text.isBlank = false ∧
    text = "import".toList ++ (blanks ++ rest) := by
  unfold read? at h
  cases keyword : Text.after? "import".toList text with
  | none =>
      rw [keyword] at h
      cases h
  | some first =>
      cases run : Text.run? Text.isBlank first with
      | none =>
          rw [keyword] at h
          simp only [Option.bind_eq_bind, Option.bind_some, run] at h
          cases h
      | some parts =>
          obtain ⟨some_blank, blank, ends, split⟩ := Text.eq_of_run? run
          refine ⟨parts.1, parts.2, some_blank, blank, ends, ?_⟩
          rw [Text.eq_append_of_after? keyword, split]

theorem read?_sound (h : read? text = some found) :
    Braced Opens text found ∧ ∀ other, Braced Opens text other → ¬ Earlier other found := by
  obtain ⟨blanks, rest, some_blank, blank, ends, rfl⟩ := exists_blanks_of_read? h
  rw [read?_eq some_blank blank ends] at h
  obtain ⟨later, opened, checked⟩ := Option.bind_eq_some_iff.1 h
  split at checked
  · cases checked
  · rename_i plain
    obtain rfl := Option.some.inj checked
    obtain ⟨braced, least⟩ := openOnLine?_sound opened
    obtain ⟨line, unbroken, opening⟩ := braced.opens
    have cut := braced.cut
    rw [opening, List.append_assoc, List.singleton_append] at cut
    refine ⟨⟨braced.starts, ?_, ?_, braced.names, braced.closes⟩, ?_⟩
    · simp [cut, opening]
    · refine ⟨blanks, line, some_blank, blank, ?_, unbroken, ?_, by simp [opening]⟩
      · rw [← ends, cut, ← head?_append_brace line]
      · intro type
        rw [cut, startsType_append, type] at plain
        simpa only [Bool.true_and, Bool.or_eq_true, decide_eq_true_eq, not_or, Nat.not_lt] using plain
    · rintro other ⟨starts, cut', ⟨blanks', line', some_blank', blank', ends', unbroken', _, opening'⟩,
        apart, closes⟩ earlier
      rw [opening'] at cut'
      simp only [List.append_assoc, List.singleton_append] at cut'
      have ends' := ends'
      rw [← head?_append_brace line' (other.names ++ (other.closing ++ other.after))] at ends'
      have same := Text.run?_append some_blank (List.all_eq_true.1 blank) ends
      rw [List.append_cancel_left cut', Text.run?_append some_blank' (List.all_eq_true.1 blank') ends']
        at same
      obtain ⟨rfl, tail⟩ := Prod.mk.inj (Option.some.inj same)
      refine least { other with opening := line' ++ [openBrace] }
        ⟨starts, by simp [← tail], ⟨line', unbroken', rfl⟩, apart, closes⟩ ?_
      unfold Earlier at earlier ⊢
      simp only [opening', List.length_append] at earlier ⊢
      omega

theorem exists_read? (h : Braced Opens text found) : ∃ first, read? text = some first := by
  obtain ⟨starts, cut, ⟨blanks, line, some_blank, blank, ends, unbroken, type, opening⟩, apart,
    closes⟩ := h
  rw [opening] at cut
  simp only [List.append_assoc, List.singleton_append] at cut
  rw [← head?_append_brace line (found.names ++ (found.closing ++ found.after))] at ends
  have braced : Braced OpensLine (line ++ openBrace :: (found.names ++ (found.closing ++ found.after)))
      { found with opening := line ++ [openBrace] } :=
    ⟨starts, by simp, ⟨line, unbroken, rfl⟩, apart, closes⟩
  obtain ⟨first, opened⟩ := exists_openOnLine? braced
  refine ⟨{ first with opening := "import".toList ++ blanks ++ first.opening }, ?_⟩
  rw [cut, read?_eq some_blank blank ends, opened, Option.bind_some, startsType_append, if_neg]
  intro refused
  rw [Bool.and_eq_true, Bool.or_eq_true, decide_eq_true_iff, decide_eq_true_iff] at refused
  obtain ⟨long, last⟩ := type refused.1
  rcases refused.2 with short | ends
  · omega
  · exact last ends

structure StandsFrom (joined : Bool) (text : Text) (found : LibraryImport) : Prop where
  apart : found.before.getLast?.elim joined Text.isWord = false
  cut : text = found.text
  opens : Opens found.opening
  names : closeBrace ∉ found.names
  closes : Closes found.closing

def Stands (text : Text) (found : LibraryImport) : Prop :=
  StandsFrom false text found

theorem standsFrom_of_braced (h : Braced Opens text found) : StandsFrom false text found := by
  obtain ⟨starts, cut, opens, names, closes⟩ := h
  refine ⟨by rw [starts]; rfl, ?_, opens, names, closes⟩
  rw [cut, LibraryImport.text, starts]
  simp

theorem standsFrom_cons {joined : Bool} {c : Char} :
    StandsFrom joined (c :: text) found ↔
      (joined = false ∧ Braced Opens (c :: text) found) ∨
        ∃ later, StandsFrom (Text.isWord c) text later ∧
          found = { later with before := c :: later.before } := by
  constructor
  · rintro ⟨apart, cut, opens, names, closes⟩
    obtain ⟨before, opening, listed, closing, after⟩ := found
    cases before with
    | nil => exact .inl ⟨apart, rfl, by simpa [LibraryImport.text] using cut, opens, names, closes⟩
    | cons d before =>
        simp only [LibraryImport.text, List.cons_append, List.cons.injEq] at cut
        obtain ⟨rfl, cut⟩ := cut
        refine .inr ⟨⟨before, opening, listed, closing, after⟩, ⟨?_, cut, opens, names, closes⟩, rfl⟩
        rw [List.getLast?_cons] at apart
        cases last : before.getLast? with
        | none => simpa [last] using apart
        | some e => simpa [last] using apart
  · rintro (⟨rfl, braced⟩ | ⟨later, ⟨apart, rfl, opens, names, closes⟩, rfl⟩)
    · exact standsFrom_of_braced braced
    · refine ⟨?_, rfl, opens, names, closes⟩
      rw [List.getLast?_cons]
      cases last : later.before.getLast? with
      | none => simpa [last] using apart
      | some e => simpa [last] using apart

theorem findFrom_sound {joined : Bool} (h : findFrom joined text = some found) :
    StandsFrom joined text found ∧
      ∀ other, StandsFrom joined text other → ¬ Earlier other found := by
  induction text generalizing joined found with
  | nil => cases h
  | cons c text ih =>
      rw [findFrom] at h
      cases here : (if joined then none else read? (c :: text)) with
      | some first =>
          rw [here] at h
          obtain rfl := Option.some.inj h
          split at here
          · cases here
          · rename_i free
            have free : joined = false := by simpa using free
            obtain ⟨braced, least⟩ := read?_sound here
            refine ⟨standsFrom_cons.2 (.inl ⟨free, braced⟩), ?_⟩
            intro other stands earlier
            rcases standsFrom_cons.1 stands with ⟨_, braced'⟩ | ⟨later, _, rfl⟩
            · exact least other braced' earlier
            · simp [Earlier, braced.starts] at earlier
      | none =>
          rw [here] at h
          obtain ⟨later, found_later, rfl⟩ := Option.map_eq_some_iff.1 h
          obtain ⟨stands, least⟩ := ih found_later
          refine ⟨standsFrom_cons.2 (.inr ⟨later, stands, rfl⟩), ?_⟩
          intro other stands' earlier
          rcases standsFrom_cons.1 stands' with ⟨rfl, braced⟩ | ⟨inner, within, rfl⟩
          · obtain ⟨first, found⟩ := exists_read? braced
            rw [if_neg Bool.false_ne_true, found] at here
            cases here
          · refine least inner within ?_
            unfold Earlier at earlier ⊢
            simp only [List.length_cons] at earlier
            omega

theorem exists_findFrom {joined : Bool} (h : StandsFrom joined text found) :
    ∃ first, findFrom joined text = some first := by
  induction text generalizing joined found with
  | nil =>
      obtain ⟨_, _, _, _, _, _, _, opening⟩ := h.opens
      have cut := h.cut
      simp [LibraryImport.text, opening] at cut
  | cons c text ih =>
      rw [findFrom]
      cases here : (if joined then none else read? (c :: text)) with
      | some first => exact ⟨first, rfl⟩
      | none =>
          rcases standsFrom_cons.1 h with ⟨rfl, braced⟩ | ⟨later, stands, rfl⟩
          · obtain ⟨first, found⟩ := exists_read? braced
            rw [if_neg Bool.false_ne_true, found] at here
            cases here
          · obtain ⟨first, found⟩ := ih stands
            exact ⟨_, by rw [found]; rfl⟩

theorem stands_unique {same : LibraryImport} (h : Stands text found) (h' : Stands text same)
    (starts : found.before.length = same.before.length)
    (opens : found.opening.length = same.opening.length)
    (ends : found.closing.length = same.closing.length) : found = same := by
  obtain ⟨_, cut, _, apart, ⟨reach, _, closes⟩⟩ := h
  obtain ⟨_, cut', _, apart', ⟨reach', _, closes'⟩⟩ := h'
  obtain ⟨before, opening, names, closing, after⟩ := found
  obtain ⟨before', opening', names', closing', after'⟩ := same
  simp only at closes closes'
  subst closes closes'
  rw [cut] at cut'
  simp only [LibraryImport.text, List.append_assoc] at cut'
  obtain ⟨same_before, from_opening⟩ := List.append_inj cut' starts
  obtain ⟨same_opening, from_names⟩ := List.append_inj from_opening opens
  obtain ⟨same_names, behind⟩ := names_unique apart apart' from_names
  obtain ⟨same_reach, same_after⟩ := List.append_inj behind (by simpa using ends)
  simp only at same_names
  rw [same_before, same_opening, same_names, same_reach, same_after]

theorem find?_eq_some_iff : find? text = some found ↔
    Stands text found ∧ ∀ other, Stands text other → ¬ Earlier other found := by
  constructor
  · exact findFrom_sound
  · rintro ⟨stands, least⟩
    obtain ⟨first, found_first⟩ := exists_findFrom stands
    obtain ⟨stands', least'⟩ := findFrom_sound found_first
    have after := least first stands'
    have before := least' found stands
    unfold Earlier at after before
    rw [find?, found_first, stands_unique stands' stands (by omega) (by omega) (by omega)]

theorem find?_eq_none_iff : find? text = none ↔ ∀ found, ¬ Stands text found := by
  constructor
  · intro none found stands
    obtain ⟨first, found_first⟩ := exists_findFrom stands
    rw [find?, found_first] at none
    cases none
  · intro none
    cases found : find? text with
    | none => rfl
    | some first => exact absurd (findFrom_sound found).1 (none first)

def keptNames (names : Text) : Text :=
  Text.trim (Text.dropEndWhile (· == ',') (Text.trim names))

theorem keptNames_isInfix (names : Text) : keptNames names <:+: names :=
  (Text.trim_isInfix _).trans ((Text.dropEndWhile_isPrefix _ _).isInfix.trans (Text.trim_isInfix names))

theorem widenNames_eq (names symbol : Text) : widenNames names symbol =
    if (keptNames names).isEmpty then symbol else keptNames names ++ (", ".toList ++ symbol) := by
  rw [← List.append_assoc]
  rfl

theorem mem_widen {symbol : Text} {c : Char} (h : c ∈ (found.widen symbol).names) :
    c ∈ found.names ∨ c ∈ symbol ∨ c = ',' ∨ c = ' ' := by
  have kept : ∀ c ∈ keptNames found.names, c ∈ found.names :=
    fun _ member => (keptNames_isInfix found.names).subset member
  unfold widen at h
  rw [widenNames_eq] at h
  simp only [List.mem_append] at h
  rcases h with (blank | inside) | blank
  · simp_all
  · split at inside
    · exact .inr (.inl inside)
    · simp only [List.mem_append] at inside
      rcases inside with old | comma | new
      · exact .inl (kept c old)
      · simp at comma
        exact .inr (.inr comma)
      · exact .inr (.inl new)
  · simp_all

end LibraryImport

end DiagnosticRepair
