import DiagnosticRepair.Proofs.Source.LibraryImport
import DiagnosticRepair.Proofs.Text.Endings

namespace DiagnosticRepair

namespace Text

variable {first second before after : Text} {c : Char}

theorem exists_beyond (h : c ∉ first) (same : before ++ c :: after = first ++ second) :
    ∃ between, before = first ++ between ∧ second = between ++ c :: after := by
  rcases List.append_eq_append_iff.1 same with ⟨more, rfl, behind⟩ | ⟨more, rfl, behind⟩
  · cases more with
    | nil => exact ⟨[], by simp, by simpa using behind.symm⟩
    | cons d more =>
        obtain ⟨rfl, _⟩ := List.cons.inj behind
        simp at h
  · exact ⟨more, rfl, behind⟩

theorem exists_within (h : c ∉ second) (same : before ++ c :: after = first ++ second) :
    ∃ between, first = before ++ c :: between ∧ after = between ++ second := by
  rcases List.append_eq_append_iff.1 same with ⟨more, rfl, behind⟩ | ⟨more, rfl, rfl⟩
  · cases more with
    | nil =>
        rw [List.nil_append] at behind
        subst behind
        simp at h
    | cons d more =>
        obtain ⟨rfl, rest⟩ := List.cons.inj behind
        exact ⟨more, rfl, rest⟩
  · simp at h

theorem splitOn_append_separator (separator : Char) (first second : Text) :
    splitOn [separator] (first ++ separator :: second) =
      splitOn [separator] first ++ splitOn [separator] second := by
  induction first with
  | nil =>
      rw [List.nil_append, splitOn_cons_separator]
      rfl
  | cons c first ih =>
      by_cases same : c = separator
      · subst same
        rw [List.cons_append, splitOn_cons_separator, splitOn_cons_separator, ih, List.cons_append]
      · rw [List.cons_append, splitOn_cons_of_ne same, splitOn_cons_of_ne same, ih]
        cases pieces : splitOn [separator] first with
        | nil => exact absurd pieces (splitOn_ne_nil _ _)
        | cons piece pieces => rfl

theorem splitOn_of_not_mem (h : c ∉ first) : splitOn [c] first = [first] := by
  have := splitOn_append h []
  rw [List.append_nil] at this
  rw [this]
  simp [splitOn, splitFrom]

theorem exists_last (c : Char) (text : Text) :
    c ∉ text ∨ ∃ above last, text = above ++ c :: last ∧ c ∉ last := by
  induction text with
  | nil => exact .inl List.not_mem_nil
  | cons d text ih =>
      rcases ih with none | ⟨above, last, rfl, none⟩
      · by_cases same : d = c
        · subst same
          exact .inr ⟨[], text, rfl, none⟩
        · rw [List.mem_cons, not_or]
          exact .inl ⟨Ne.symm same, none⟩
      · exact .inr ⟨d :: above, last, rfl, none⟩

theorem exists_dropEndWhile (p : Char → Bool) (text : Text) :
    ∃ tail, tail.all p = true ∧ text = dropEndWhile p text ++ tail := by
  induction text with
  | nil => exact ⟨[], rfl, rfl⟩
  | cons c rest ih =>
      obtain ⟨tail, all, split⟩ := ih
      rw [dropEndWhile]
      cases kept : dropEndWhile p rest with
      | nil =>
          rw [kept, List.nil_append] at split
          subst split
          cases holds : p c with
          | true => exact ⟨c :: rest, by rw [List.all_cons, holds, all]; rfl, rfl⟩
          | false => exact ⟨rest, all, rfl⟩
      | cons d kept' =>
          rw [kept] at split
          exact ⟨tail, all, by rw [split]; rfl⟩

theorem dropEndWhile_concat {p : Char → Bool} (holds : p c = true) (text : Text) :
    dropEndWhile p (text ++ [c]) = dropEndWhile p text := by
  induction text with
  | nil => simp [dropEndWhile, holds]
  | cons d rest ih => rw [List.cons_append, dropEndWhile, dropEndWhile, ih]

theorem trim_cons (blank : isBlank c = true) (text : Text) : trim (c :: text) = trim text := by
  unfold trim trimStart
  rw [List.dropWhile_cons, if_pos blank]

theorem trim_concat (blank : isBlank c = true) (text : Text) : trim (text ++ [c]) = trim text := by
  unfold trim
  rw [trimStart_concat blank]
  split
  · rename_i all
    rw [trimStart_of_allBlank all]
  · exact dropEndWhile_concat blank _

end Text

namespace LibraryImport

variable {text names symbol clause other rest above line opening : Text}
  {found first : LibraryImport}

theorem source_apart {c : Char} (h : IsSource clause) (blank : Text.isBlank c = false)
    (apart : c ∉ "from'\"@testing-library/react".toList) : c ∉ clause := by
  intro member
  rcases mem_source h member with holds | inside
  · rw [blank] at holds
    cases holds
  · exact apart inside

theorem getLast?_source (h : IsSource clause) :
    ∃ mark, isQuote mark = true ∧ clause.getLast? = some mark := by
  have closes : Closes (closeBrace :: clause) :=
    ⟨clause, ⟨[], clause, List.not_mem_nil, h, rfl⟩, rfl⟩
  obtain ⟨mark, quote, last⟩ := getLast?_closing closes
  obtain ⟨word, rfl, _⟩ := source_starts h
  exact ⟨mark, quote, by simpa using last⟩

theorem opens_of_append (opening rest : Text) (h : Opens (opening ++ openBrace :: rest)) :
    Opens (opening ++ [openBrace]) := by
  obtain ⟨blanks, line, some_blank, blank, ends, unbroken, type, split⟩ := h
  have apart : openBrace ∉ "import".toList ++ blanks := by
    rw [List.mem_append, not_or]
    exact ⟨by decide, fun member => absurd (List.all_eq_true.1 blank _ member) (by decide)⟩
  rw [← List.append_assoc] at split
  obtain ⟨part, rfl, line_eq⟩ := Text.exists_beyond apart split
  refine ⟨blanks, part, some_blank, blank, ?_, ?_, ?_, by simp⟩
  · rw [← head?_append_brace part rest, ← line_eq]
    exact ends
  · intro feed
    have member : '\n' ∈ line ++ [openBrace] := by simp [line_eq, feed]
    rcases List.mem_append.1 member with inside | last
    · exact unbroken inside
    · exact absurd last (by decide)
  · rw [← startsType_append part rest, ← line_eq]
    exact type

/-- A closing brace stands before the opening one on its line, and widening takes a line break out
of the names. -/
def Joins (found : LibraryImport) : Prop :=
  (keptNames found.names).count '\n' < found.names.count '\n' ∧
    ∃ above line, found.before ++ found.opening = above ++ closeBrace :: line ∧ '\n' ∉ line

def Plain (symbol : Text) : Prop :=
  ∀ c ∈ symbol, isQuote c = false ∧ c ≠ closeBrace

instance : DecidablePred Plain :=
  fun symbol => List.decidableBAll _ symbol

theorem exists_added (symbol : Text) (found : LibraryImport) :
    ∃ added, (∀ c ∈ added, c ∈ symbol ∨ c = ',' ∨ c = ' ') ∧
      (found.widen symbol).names = ' ' :: (keptNames found.names ++ added) := by
  have last : ∀ c ∈ symbol ++ [' '], c ∈ symbol ∨ c = ',' ∨ c = ' ' := by
    intro c member
    rcases List.mem_append.1 member with inside | blank
    · exact .inl inside
    · exact .inr (.inr (List.mem_singleton.1 blank))
  unfold widen
  rw [widenNames_eq]
  split
  · rename_i empty
    exact ⟨symbol ++ [' '], last, by simp [List.isEmpty_iff.1 empty]⟩
  · refine ⟨", ".toList ++ (symbol ++ [' ']), fun c member => ?_, by simp⟩
    rcases List.mem_append.1 member with comma | member
    · exact .inr (by simpa using comma)
    · exact last c member

theorem exists_widened (plain : Plain symbol) (found : LibraryImport) :
    ∃ added, (∀ c ∈ added, isQuote c = false) ∧
      (found.widen symbol).names = ' ' :: (keptNames found.names ++ added) := by
  obtain ⟨added, marks, widened⟩ := exists_added symbol found
  refine ⟨added, fun c member => ?_, widened⟩
  rcases marks c member with inside | rfl | rfl
  · exact (plain c inside).1
  · rfl
  · rfl

theorem count_keptNames_le (names : Text) : (keptNames names).count '\n' ≤ names.count '\n' :=
  (keptNames_isInfix names).sublist.count_le '\n'

theorem exists_source_in_names {lead tail : Text} (h : IsSource clause) (plain : Plain symbol)
    (same : (keptNames found.names).count '\n' = found.names.count '\n') (unbroken : '\n' ∉ lead)
    (split : (found.widen symbol).names = lead ++ (clause ++ tail)) :
    ∃ lead' tail', '\n' ∉ lead' ∧ found.names = lead' ++ (clause ++ tail') := by
  obtain ⟨added, unquoted, widened⟩ := exists_widened plain found
  obtain ⟨mark, quote, last⟩ := getLast?_source h
  obtain ⟨clause', rfl⟩ := List.getLast?_eq_some_iff.1 last
  have apart : mark ∉ added := by
    intro member
    rw [unquoted mark member] at quote
    cases quote
  have behind : lead ++ clause' ++ mark :: tail = ' ' :: keptNames found.names ++ added := by
    rw [List.cons_append, ← widened, split]
    simp
  obtain ⟨more, kept, _⟩ := Text.exists_within apart behind
  cases lead with
  | nil =>
      obtain ⟨word, starts, _⟩ := source_starts h
      cases clause' with
      | nil =>
          have : mark = 'f' := (List.cons.inj starts).1
          subst this
          exact absurd quote (by decide)
      | cons d clause' =>
          have first : d = 'f' := (List.cons.inj starts).1
          have blank : ' ' = d := (List.cons.inj kept).1
          exact absurd (blank.trans first) (by decide)
  | cons d lead =>
      rw [List.mem_cons, not_or] at unbroken
      obtain ⟨front, back, names_eq⟩ := keptNames_isInfix found.names
      have kept : keptNames found.names = lead ++ (clause' ++ [mark] ++ more) := by
        simpa using (List.cons.inj kept).2
      refine ⟨front ++ lead, more ++ back, ?_, ?_⟩
      · have counts := congrArg (List.count '\n') names_eq
        rw [List.count_append, List.count_append] at counts
        have none : front.count '\n' = 0 := by omega
        rw [List.mem_append, not_or]
        exact ⟨List.count_eq_zero.1 none, unbroken.2⟩
      · rw [← names_eq, kept]
        simp

theorem exists_reach {reach tail : Text} (h : ReachesSource reach) (plain : Plain symbol)
    (settled : '\n' ∉ line → (keptNames found.names).count '\n' = found.names.count '\n')
    (split : line ++ openBrace :: ((found.widen symbol).names ++ closeBrace :: tail) = reach ++ rest) :
    ∃ reach' rest', ReachesSource reach' ∧
      line ++ openBrace :: (found.names ++ closeBrace :: tail) = reach' ++ rest' := by
  obtain ⟨before, clause, unbroken, source, rfl⟩ := h
  have open_apart := source_apart source (c := openBrace) (by decide) (by decide)
  have close_apart := source_apart source (c := closeBrace) (by decide) (by decide)
  rcases List.append_eq_append_iff.1 split with ⟨more, reached, behind⟩ | ⟨more, rfl, _⟩
  · cases more with
    | nil =>
        refine ⟨before ++ clause, openBrace :: (found.names ++ closeBrace :: tail),
          ⟨before, clause, unbroken, source, rfl⟩, ?_⟩
        rw [reached, List.append_nil]
    | cons d more =>
        obtain ⟨rfl, names_behind⟩ := List.cons.inj behind
        obtain ⟨between, rfl, rfl⟩ := Text.exists_within open_apart reached.symm
        simp only [List.mem_append, List.mem_cons, not_or] at unbroken
        obtain ⟨unbroken, _, unbroken'⟩ := unbroken
        have same := settled unbroken
        have names_behind : (found.widen symbol).names ++ closeBrace :: tail =
            between ++ (clause ++ rest) := by simpa using names_behind
        rcases List.append_eq_append_iff.1 names_behind with
          ⟨past, rfl, passed⟩ | ⟨past, names, passed⟩
        · -- the clause stands behind the names, which then have no line break either
          have apart : '\n' ∉ found.names := by
            obtain ⟨added, _, widened⟩ := exists_widened plain found
            rw [widened] at unbroken'
            simp only [List.mem_append, List.mem_cons, not_or] at unbroken'
            have := List.count_eq_zero.2 unbroken'.1.2.1
            exact List.count_eq_zero.1 (same ▸ this)
          simp only [List.mem_append, not_or] at unbroken'
          refine ⟨line ++ openBrace :: (found.names ++ past) ++ clause, rest,
            ⟨line ++ openBrace :: (found.names ++ past), clause, ?_, source, rfl⟩, ?_⟩
          · simp only [List.mem_append, List.mem_cons, not_or]
            exact ⟨unbroken, by decide, apart, unbroken'.2⟩
          · simp [passed]
        · obtain ⟨past, rfl, rfl⟩ := Text.exists_beyond close_apart passed.symm
          obtain ⟨lead, trail, unbroken'', split⟩ :=
            exists_source_in_names source plain same unbroken' names
          refine ⟨line ++ openBrace :: lead ++ clause, trail ++ closeBrace :: tail,
            ⟨line ++ openBrace :: lead, clause, ?_, source, rfl⟩, ?_⟩
          · simp only [List.mem_append, List.mem_cons, not_or]
            exact ⟨unbroken, by decide, unbroken''⟩
          · simp [split]
  · exact ⟨before ++ clause, more ++ openBrace :: (found.names ++ closeBrace :: tail),
      ⟨before, clause, unbroken, source, rfl⟩, by simp⟩

theorem stands_widen (h : Stands text found) (plain : Plain symbol) :
    Stands (found.widen symbol).text (found.widen symbol) := by
  refine ⟨h.apart, rfl, h.opens, fun member => ?_, h.closes⟩
  rcases mem_widen member with old | new | comma | blank
  · exact h.names old
  · exact (plain _ new).2 rfl
  · exact absurd comma (by decide)
  · exact absurd blank (by decide)

theorem exists_opening (h : Opens opening) : ∃ line, opening = line ++ [openBrace] := by
  obtain ⟨blanks, line, _, _, _, _, _, rfl⟩ := h
  exact ⟨"import".toList ++ (blanks ++ line), by simp⟩

theorem exists_stands_of_beyond (h : Stands text found) {other : LibraryImport}
    (apart : other.before.getLast?.elim false Text.isWord = false) (opens : Opens other.opening)
    (start : other.before.length < found.before.length) (more : Text)
    (beyond : other.before ++ other.opening = found.before ++ found.opening ++ more) :
    ∃ inner, Stands text inner ∧ inner.before = other.before ∧
      other.opening = inner.opening ++ more := by
  obtain ⟨line, opening⟩ := exists_opening h.opens
  rw [List.append_assoc] at beyond
  rcases List.append_eq_append_iff.1 beyond with ⟨past, before, rest⟩ | ⟨past, before, rest⟩
  · have opens' : Opens (past ++ found.opening) := by
      rw [opening, ← List.append_assoc]
      refine opens_of_append _ more ?_
      rw [rest, opening] at opens
      simpa using opens
    refine ⟨⟨other.before, past ++ found.opening, found.names, found.closing, found.after⟩,
      ⟨apart, ?_, opens', h.names, h.closes⟩, rfl, by simp [rest]⟩
    rw [h.cut, LibraryImport.text, LibraryImport.text, before]
    simp
  · rw [before, List.length_append] at start
    omega

theorem exists_earlier_of_widen (h : Stands text found) (plain : Plain symbol)
    (settled : ¬ Joins found) {other : LibraryImport}
    (stands : Stands (found.widen symbol).text other)
    (earlier : Earlier other (found.widen symbol)) :
    ∃ inner, Stands text inner ∧ Earlier inner found := by
  have earlier : Earlier other found := earlier
  obtain ⟨apart', cut', opens', names', ⟨reach, reaches, closing'⟩⟩ := stands
  obtain ⟨line, opening⟩ := exists_opening h.opens
  obtain ⟨tail, _, closing⟩ := h.closes
  have widened := (stands_widen h plain).names
  have split : found.before ++ found.opening ++
      ((found.widen symbol).names ++ closeBrace :: (tail ++ found.after)) =
      other.before ++ other.opening ++ (other.names ++ closeBrace :: (reach ++ other.after)) := by
    have split : found.before ++ found.opening ++ (found.widen symbol).names ++ found.closing ++
        found.after = other.before ++ other.opening ++ other.names ++ other.closing ++ other.after :=
      cut'
    rw [closing, closing'] at split
    simpa using split
  have cut : text = found.before ++ found.opening ++
      (found.names ++ closeBrace :: (tail ++ found.after)) := by
    rw [h.cut, LibraryImport.text, closing]
    simp
  unfold Earlier at earlier
  by_cases longer : (found.before ++ found.opening).length < (other.before ++ other.opening).length
  · obtain ⟨more, beyond, _⟩ : ∃ more,
        other.before ++ other.opening = found.before ++ found.opening ++ more ∧ True := by
      rcases List.append_eq_append_iff.1 split with ⟨more, beyond, _⟩ | ⟨more, within, _⟩
      · exact ⟨more, beyond, trivial⟩
      · rw [within, List.length_append] at longer
        omega
    rw [List.length_append, List.length_append] at longer
    have start : other.before.length < found.before.length := by omega
    obtain ⟨inner, within, before, _⟩ := exists_stands_of_beyond h apart' opens' start more beyond
    exact ⟨inner, within, .inl (before ▸ start)⟩
  · obtain ⟨more, within, behind⟩ : ∃ more,
        found.before ++ found.opening = other.before ++ other.opening ++ more ∧
          other.names ++ closeBrace :: (reach ++ other.after) =
            more ++ ((found.widen symbol).names ++ closeBrace :: (tail ++ found.after)) := by
      rcases List.append_eq_append_iff.1 split with ⟨more, beyond, behind⟩ | ⟨more, within, behind⟩
      · cases more with
        | nil => exact ⟨[], by simpa using beyond.symm, by simpa using behind.symm⟩
        | cons d more =>
            rw [beyond] at longer
            simp at longer
      · exact ⟨more, within, behind⟩
    have size := congrArg List.length within
    simp only [List.length_append] at size
    rcases exists_names more with none | ⟨between, past, none, rfl⟩
    · -- both imports end at the same closing brace
      rw [← List.append_assoc] at behind
      have none' : closeBrace ∉ more ++ (found.widen symbol).names := by
        rw [List.mem_append, not_or]
        exact ⟨none, widened⟩
      obtain ⟨_, same⟩ := names_unique names' none' behind
      have none'' : closeBrace ∉ more ++ found.names := by
        rw [List.mem_append, not_or]
        exact ⟨none, h.names⟩
      refine ⟨⟨other.before, other.opening, more ++ found.names, other.closing, other.after⟩,
        ⟨apart', ?_, opens', none'', ⟨reach, reaches, closing'⟩⟩, earlier⟩
      rw [cut, LibraryImport.text, closing', within, ← same]
      simp
    · -- the other import ends at a closing brace before the opening one of this import
      have last : (between ++ closeBrace :: past).getLast? = some openBrace := by
        have ends := congrArg List.getLast? within
        rw [opening, ← List.append_assoc, List.getLast?_concat, List.getLast?_append,
          List.getLast?_append] at ends
        simpa using ends.symm
      rcases List.eq_nil_or_concat past with rfl | ⟨line', d, rfl⟩
      · rw [List.getLast?_concat] at last
        exact absurd last (by decide)
      · rw [List.concat_eq_append] at *
        rw [← List.cons_append, ← List.append_assoc, List.getLast?_concat] at last
        obtain rfl := Option.some.inj last
        have settled' : '\n' ∉ line' →
            (keptNames found.names).count '\n' = found.names.count '\n' := by
          intro unbroken
          have fewer := count_keptNames_le found.names
          have none_lost : ¬ (keptNames found.names).count '\n' < found.names.count '\n' := by
            intro lost
            refine settled ⟨lost, other.before ++ other.opening ++ between, line' ++ [openBrace], ?_, ?_⟩
            · rw [within]
              simp
            · rw [List.mem_append, not_or]
              exact ⟨unbroken, by decide⟩
          omega
        rw [List.append_assoc, List.cons_append] at behind
        obtain ⟨_, reached⟩ := names_unique names' none behind
        have reached : line' ++ openBrace ::
            ((found.widen symbol).names ++ closeBrace :: (tail ++ found.after)) =
            reach ++ other.after := by
          rw [reached]
          simp
        obtain ⟨reach', rest', reaches', split'⟩ := exists_reach reaches plain settled' reached
        refine ⟨⟨other.before, other.opening, between, closeBrace :: reach', rest'⟩,
          ⟨apart', ?_, opens', none, ⟨reach', reaches', rfl⟩⟩, ?_⟩
        · rw [cut, LibraryImport.text, within]
          simp [← split']
        · simp only [List.length_append, List.length_cons] at size
          unfold Earlier
          simp only
          omega

theorem find?_widen (first : find? text = some found) (plain : Plain symbol)
    (settled : ¬ Joins found) : find? (found.widen symbol).text = some (found.widen symbol) := by
  obtain ⟨stands, least⟩ := find?_eq_some_iff.1 first
  refine find?_eq_some_iff.2 ⟨stands_widen stands plain, fun other stands' earlier => ?_⟩
  obtain ⟨inner, within, earlier'⟩ := exists_earlier_of_widen stands plain settled stands' earlier
  exact least inner within earlier'

theorem boundNames_congr {item item' : Text} (same : Text.trim item = Text.trim item') :
    boundNames item = boundNames item' := by
  unfold boundNames
  rw [same]

theorem bindings_append (first second : Text) :
    bindings (first ++ ',' :: second) = bindings first ++ bindings second := by
  unfold bindings
  rw [show ",".toList = [','] from rfl, Text.splitOn_append_separator, List.flatMap_append]

theorem bindings_of_not_mem (h : ',' ∉ names) : bindings names = boundNames names := by
  unfold bindings
  rw [show ",".toList = [','] from rfl, Text.splitOn_of_not_mem h]
  simp

theorem bindings_cons {c : Char} (blank : Text.isBlank c = true) (names : Text) :
    bindings (c :: names) = bindings names := by
  have apart : c ≠ ',' := by
    rintro rfl
    exact absurd blank (by decide)
  unfold bindings
  rw [show ",".toList = [','] from rfl, Text.splitOn_cons_of_ne apart]
  cases items : Text.splitOn [','] names with
  | nil => exact absurd items (Text.splitOn_ne_nil _ _)
  | cons item items =>
      rw [List.modifyHead_cons, List.flatMap_cons, List.flatMap_cons,
        boundNames_congr (Text.trim_cons blank item)]

theorem bindings_concat {c : Char} (blank : Text.isBlank c = true) (names : Text) :
    bindings (names ++ [c]) = bindings names := by
  have apart : ',' ≠ c := by
    rintro rfl
    exact absurd blank (by decide)
  have alone : ∀ last : Text, ',' ∉ last → bindings (last ++ [c]) = bindings last := by
    intro last none
    rw [bindings_of_not_mem none, bindings_of_not_mem (by simp [none, apart]),
      boundNames_congr (Text.trim_concat blank last)]
  rcases Text.exists_last ',' names with none | ⟨above, last, rfl, none⟩
  · exact alone names none
  · rw [List.append_assoc, List.cons_append, bindings_append, bindings_append, alone last none]

theorem bindings_append_blanks {blanks : Text} (blank : Text.allBlank blanks = true) (names : Text) :
    bindings (names ++ blanks) = bindings names := by
  induction blanks generalizing names with
  | nil => rw [List.append_nil]
  | cons c blanks ih =>
      unfold Text.allBlank at blank ih
      rw [List.all_cons, Bool.and_eq_true] at blank
      have grouped : names ++ c :: blanks = names ++ [c] ++ blanks := by simp
      rw [grouped, ih blank.2, bindings_concat blank.1]

theorem bindings_blanks_append {blanks : Text} (blank : Text.allBlank blanks = true) (names : Text) :
    bindings (blanks ++ names) = bindings names := by
  induction blanks with
  | nil => rfl
  | cons c blanks ih =>
      unfold Text.allBlank at blank ih
      rw [List.all_cons, Bool.and_eq_true] at blank
      rw [List.cons_append, bindings_cons blank.1, ih blank.2]

theorem bindings_append_commas {commas : Text} (all : commas.all (· == ',') = true) (names : Text) :
    bindings (names ++ commas) = bindings names := by
  induction commas generalizing names with
  | nil => rw [List.append_nil]
  | cons c commas ih =>
      rw [List.all_cons, Bool.and_eq_true, beq_iff_eq] at all
      obtain ⟨rfl, all⟩ := all
      have none : bindings commas = [] := ih all []
      rw [bindings_append, none, List.append_nil]

theorem bindings_trim (names : Text) : bindings (Text.trim names) = bindings names := by
  obtain ⟨blanks, blank, split⟩ := Text.exists_trimStart names
  obtain ⟨blanks', blank', split'⟩ := Text.exists_dropEndWhile Text.isBlank (Text.trimStart names)
  calc bindings (Text.trim names)
      = bindings (Text.trim names ++ blanks') := (bindings_append_blanks blank' _).symm
    _ = bindings (Text.trimStart names) := congrArg bindings split'.symm
    _ = bindings (blanks ++ Text.trimStart names) := (bindings_blanks_append blank _).symm
    _ = bindings names := congrArg bindings split.symm

theorem bindings_keptNames (names : Text) : bindings (keptNames names) = bindings names := by
  obtain ⟨commas, all, split⟩ := Text.exists_dropEndWhile (· == ',') (Text.trim names)
  rw [keptNames, bindings_trim, ← bindings_append_commas all, ← split, bindings_trim]

theorem bindings_widen (h : ',' ∉ symbol) (found : LibraryImport) :
    bindings (found.widen symbol).names = bindings found.names ++ boundNames symbol := by
  have space : Text.isBlank ' ' = true := by decide
  have trimmed : bindings (found.widen symbol).names = bindings (widenNames found.names symbol) := by
    have names : (found.widen symbol).names = ' ' :: (widenNames found.names symbol ++ [' ']) := rfl
    rw [names, bindings_cons space, bindings_concat space]
  rw [trimmed, widenNames_eq, ← bindings_keptNames found.names]
  split
  · rename_i empty
    rw [List.isEmpty_iff.1 empty, bindings_of_not_mem h]
    rfl
  · have comma : ", ".toList ++ symbol = ',' :: ' ' :: symbol := rfl
    rw [comma, bindings_append, bindings_cons space, bindings_of_not_mem h]

theorem addIfUsed_eq_none_iff {usage : Text} : addIfUsed symbol usage text = none ↔
    ∀ found, find? text = some found →
      symbol ∈ bindings found.names ∨ Text.occursIn usage found.body = false := by
  unfold addIfUsed
  cases find? text with
  | none => simp
  | some found =>
      simp only [Option.bind_eq_bind, Option.bind_some, Option.some.injEq, forall_eq']
      split
      · rename_i idle
        simpa using idle
      · rename_i needed
        simpa using needed

theorem addIfUsed_eq_some_iff {usage widened : Text} :
    addIfUsed symbol usage text = some widened ↔
      ∃ found, find? text = some found ∧ symbol ∉ bindings found.names ∧
        Text.occursIn usage found.body = true ∧ widened = (found.widen symbol).text := by
  unfold addIfUsed
  cases find? text with
  | none => simp
  | some found =>
      simp only [Option.bind_eq_bind, Option.bind_some, Option.some.injEq, exists_eq_left']
      split
      · rename_i idle
        have idle : symbol ∈ bindings found.names ∨ Text.occursIn usage found.body = false := by
          simpa using idle
        constructor
        · intro none
          cases none
        · rintro ⟨absent, used, _⟩
          rcases idle with listed | unused
          · exact absurd listed absent
          · rw [used] at unused
            cases unused
      · rename_i needed
        have needed : symbol ∉ bindings found.names ∧ Text.occursIn usage found.body = true := by
          simpa using needed
        rw [Option.some.injEq, eq_comm]
        exact ⟨fun same => ⟨needed.1, needed.2, same⟩, fun ⟨_, _, same⟩ => same⟩

structure Importable (symbol : Text) : Prop where
  plain : Plain symbol
  comma : ',' ∉ symbol
  bound : symbol ∈ boundNames symbol
  first : ∃ c rest, symbol = c :: rest ∧ Text.isBlank c = false
  last : ∃ rest c, symbol = rest ++ [c] ∧ Text.isBlank c = false

theorem exists_first_keptNames (some_name : keptNames names ≠ []) :
    ∃ c rest, keptNames names = c :: rest ∧ Text.isBlank c = false := by
  cases kept : keptNames names with
  | nil => exact absurd kept some_name
  | cons c rest =>
      refine ⟨c, rest, rfl, ?_⟩
      have start := Text.dropEndWhile_isPrefix Text.isBlank
        (Text.trimStart (Text.dropEndWhile (· == ',') (Text.trim names)))
      have kept : Text.dropEndWhile Text.isBlank
          (Text.trimStart (Text.dropEndWhile (· == ',') (Text.trim names))) = c :: rest := kept
      rw [kept] at start
      obtain ⟨tail, split⟩ := start
      have := List.head?_dropWhile_not Text.isBlank (Text.dropEndWhile (· == ',') (Text.trim names))
      rw [show List.dropWhile _ _ = c :: rest ++ tail from split.symm] at this
      simpa using this

theorem keptNames_widen (h : Importable symbol) (found : LibraryImport) :
    keptNames (found.widen symbol).names = widenNames found.names symbol := by
  have space : Text.isBlank ' ' = true := by decide
  have names : (found.widen symbol).names = ' ' :: (widenNames found.names symbol ++ [' ']) := rfl
  obtain ⟨front, last, symbol_eq, visible⟩ := h.last
  have apart : (last == ',') = false := by
    rw [beq_eq_false_iff_ne]
    rintro rfl
    exact h.comma (by simp [symbol_eq])
  obtain ⟨c, rest, rest', starts, ends, visible'⟩ : ∃ c rest rest',
      widenNames found.names symbol = c :: rest ∧
        widenNames found.names symbol = rest' ++ [last] ∧ Text.isBlank c = false := by
    rw [widenNames_eq]
    split
    · obtain ⟨c, rest, split, visible'⟩ := h.first
      exact ⟨c, rest, front, split, symbol_eq, visible'⟩
    · rename_i some_name
      obtain ⟨c, rest, kept, visible'⟩ := exists_first_keptNames (by simpa using some_name)
      refine ⟨c, rest ++ (", ".toList ++ symbol),
        keptNames found.names ++ (", ".toList ++ front), ?_, ?_, visible'⟩
      · rw [kept, List.cons_append]
      · rw [symbol_eq]
        simp
  have trimmed := Text.trim_of_ends (starts.symm.trans ends) visible' visible
  have kept : Text.dropEndWhile (· == ',') (rest' ++ [last]) = rest' ++ [last] :=
    Text.dropEndWhile_of_last (p := (· == ',')) apart rest'
  rw [names, keptNames, Text.trim_cons space, Text.trim_concat space, starts, trimmed, ← starts,
    ends, kept, ← ends, starts, trimmed]

theorem not_joins_widen (h : Importable symbol) (found : LibraryImport) :
    ¬ Joins (found.widen symbol) := by
  rintro ⟨lost, _⟩
  have names : (found.widen symbol).names = ' ' :: (widenNames found.names symbol ++ [' ']) := rfl
  rw [keptNames_widen h, names] at lost
  simp at lost

theorem addIfUsed_widen_self {usage : Text} (h : Importable symbol)
    (first : find? text = some found) (settled : ¬ Joins found) :
    addIfUsed symbol usage (found.widen symbol).text = none := by
  refine addIfUsed_eq_none_iff.2 fun widened first' => .inl ?_
  rw [find?_widen first h.plain settled] at first'
  rw [← Option.some.inj first', bindings_widen h.comma]
  exact List.mem_append_right _ h.bound

theorem addIfUsed_widen_of_none {usage name : Text} (h : Importable symbol)
    (first : find? text = some found) (settled : ¬ Joins found)
    (idle : addIfUsed name usage text = none) :
    addIfUsed name usage (found.widen symbol).text = none := by
  refine addIfUsed_eq_none_iff.2 fun widened first' => ?_
  rw [find?_widen first h.plain settled] at first'
  rw [← Option.some.inj first', bindings_widen h.comma]
  rcases addIfUsed_eq_none_iff.1 idle found first with listed | unused
  · exact .inl (List.mem_append_left _ listed)
  · exact .inr unused

end LibraryImport

end DiagnosticRepair
