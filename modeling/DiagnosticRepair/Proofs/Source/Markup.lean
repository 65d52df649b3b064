import DiagnosticRepair.Proofs.Source.TestImportEndings
import DiagnosticRepair.Proofs.Source.TypeImport

namespace DiagnosticRepair.TestImports

open LibraryImport (Closed)

variable {text rest word before : Text} {c : Char} {p : Text → Bool}

inductive TagName : Text → Prop
  | mk {first : Char} {more : Text} (letter : isAsciiLetter first = true)
      (follow : ∀ c ∈ more, isTagChar c = true) : TagName (first :: more)

inductive TagEnd : Text → Prop
  | closing {name blanks : Text} (named : TagName name) (blank : Text.allBlank blanks = true) :
      TagEnd ('/' :: (name ++ (blanks ++ ['>'])))
  | empty {name : Text} (named : TagName name) : TagEnd (name ++ ['/', '>'])
  | attributed {name attributes : Text} {blank : Char} (named : TagName name)
      (apart : Text.isBlank blank = true) (inside : ∀ c ∈ attributes, c ≠ '<' ∧ c ≠ '>') :
      TagEnd (name ++ blank :: (attributes ++ ['/', '>']))

inductive Tag : Text → Prop
  | mk {ending : Text} (ends : TagEnd ending) : Tag ('<' :: ending)

theorem isTagChar_of_isBlank (blank : Text.isBlank c = true) : isTagChar c = false := by
  have dot : c ≠ '.' := by
    rintro rfl
    cases blank
  rw [isTagChar, TypeImport.isWord_of_isBlank blank, Bool.false_or, beq_eq_false_iff_ne]
  exact dot

theorem TagEnd.ne_nil {ending : Text} (ends : TagEnd ending) : ending ≠ [] := by
  cases ends <;> simp

theorem TagName.ne_slash {name : Text} (named : TagName name) (tail rest : Text) :
    name ++ tail ≠ '/' :: rest := by
  rintro split
  cases named with
  | mk letter follow =>
      obtain rfl := (List.cons.inj split).1
      cases letter

theorem afterTagName?_of_name {name : Text} (named : TagName name)
    (stops : rest.head?.any isTagChar = false) : afterTagName? (name ++ rest) = some rest := by
  obtain ⟨letter, follow⟩ := named
  rw [List.cons_append, afterTagName?, if_pos letter, List.dropWhile_append_of_pos follow]
  cases rest with
  | nil => rfl
  | cons d rest =>
      have apart : isTagChar d = false := stops
      rw [List.dropWhile_cons, apart, if_neg Bool.false_ne_true]

theorem exists_name_of_afterTagName? (h : afterTagName? text = some rest) :
    ∃ name, TagName name ∧ text = name ++ rest := by
  cases text with
  | nil => cases h
  | cons c text =>
      rw [afterTagName?] at h
      split at h
      · rename_i letter
        obtain rfl := Option.some.inj h
        refine ⟨c :: text.takeWhile isTagChar, ⟨letter, ?_⟩, ?_⟩
        · exact fun d member => List.all_eq_true.1 List.all_takeWhile d member
        · rw [List.cons_append, List.takeWhile_append_dropWhile]
      · cases h

theorem closesTag_iff : closesTag text = true ↔ ∃ ending, TagEnd ('/' :: ending) ∧ ending <+: text := by
  unfold closesTag
  constructor
  · intro closes
    cases behind : afterTagName? text with
    | none =>
        rw [behind] at closes
        cases closes
    | some rest =>
        rw [behind] at closes
        obtain ⟨name, named, rfl⟩ := exists_name_of_afterTagName? behind
        obtain ⟨blanks, blank, split⟩ := Text.exists_trimStart rest
        obtain ⟨more, closed⟩ := List.head?_eq_some_iff.1 (of_decide_eq_true closes)
        refine ⟨_, .closing named blank, more, ?_⟩
        rw [split, closed]
        simp
  · rintro ⟨ending, ends, more, rfl⟩
    generalize whole : '/' :: ending = tag at ends
    cases ends with
    | @closing name blanks named blank =>
        obtain rfl := (List.cons.inj whole).2
        have stops : (blanks ++ '>' :: more).head?.any isTagChar = false := by
          cases blanks with
          | nil => rfl
          | cons b blanks => exact isTagChar_of_isBlank (List.all_eq_true.1 blank b (by simp))
        have behind := afterTagName?_of_name named stops
        simp only [List.append_assoc, List.singleton_append, behind,
          Text.trimStart_append blank (show Text.isBlank '>' = false by decide)]
        rfl
    | empty named => exact absurd whole.symm (named.ne_slash _ _)
    | attributed named apart inside => exact absurd whole.symm (named.ne_slash _ _)

theorem attributesEnd_iff : attributesEnd text = true ↔
    ∃ attributes, (∀ c ∈ attributes, c ≠ '<' ∧ c ≠ '>') ∧ attributes ++ ['/', '>'] <+: text := by
  have inside_iff : ∀ {c : Char}, (c != '<' && c != '>') = true ↔ c ≠ '<' ∧ c ≠ '>' := by simp
  unfold attributesEnd
  simp only [Bool.and_eq_true, decide_eq_true_eq]
  constructor
  · rintro ⟨slash, closes⟩
    obtain ⟨attributes, taken⟩ := List.getLast?_eq_some_iff.1 slash
    obtain ⟨more, dropped⟩ := List.head?_eq_some_iff.1 closes
    have kept : (attributes ++ ['/']).all fun c => c != '<' && c != '>' := by
      rw [← taken]
      exact List.all_takeWhile
    refine ⟨attributes, fun c member => ?_, more, ?_⟩
    · exact inside_iff.1 (List.all_eq_true.1 kept c (List.mem_append_left _ member))
    · have whole := List.takeWhile_append_dropWhile (p := fun c => c != '<' && c != '>') (l := text)
      rw [taken, dropped] at whole
      rw [← whole]
      simp
  · rintro ⟨attributes, inside, more, rfl⟩
    have kept : ∀ c ∈ attributes ++ ['/'], (c != '<' && c != '>') = true := by
      intro c member
      rcases List.mem_append.1 member with own | slash
      · exact inside_iff.2 (inside c own)
      · rw [List.mem_singleton.1 slash]
        decide
    have split : attributes ++ ['/', '>'] ++ more = (attributes ++ ['/']) ++ '>' :: more := by simp
    rw [split, List.takeWhile_append_of_pos kept, List.dropWhile_append_of_pos kept]
    simp

theorem endsEmptyTag_iff : endsEmptyTag text = true ↔ ['/', '>'] <+: text ∨
    ∃ blank attributes, Text.isBlank blank = true ∧ (∀ c ∈ attributes, c ≠ '<' ∧ c ≠ '>') ∧
      blank :: (attributes ++ ['/', '>']) <+: text := by
  cases text with
  | nil => simp [endsEmptyTag]
  | cons c text =>
      rw [endsEmptyTag_cons, Bool.or_eq_true, Bool.and_eq_true, Bool.and_eq_true, attributesEnd_iff]
      refine or_congr ?_ ?_
      · simp only [beq_iff_eq, List.cons_prefix_cons, List.head?_eq_some_iff, eq_comm (a := c)]
        refine and_congr_right fun _ => ⟨?_, ?_⟩
        · rintro ⟨more, rfl⟩
          exact ⟨more, rfl⟩
        · rintro ⟨more, rfl⟩
          exact ⟨more, rfl⟩
      · constructor
        · rintro ⟨blank, attributes, inside, ahead⟩
          exact ⟨c, attributes, blank, inside, List.cons_prefix_cons.2 ⟨rfl, ahead⟩⟩
        · rintro ⟨d, attributes, blank, inside, ahead⟩
          obtain ⟨rfl, later⟩ := List.cons_prefix_cons.1 ahead
          exact ⟨blank, attributes, inside, later⟩

theorem endsTag_of_ne_slash (plain : text.head? ≠ some '/') : endsTag text = isEmptyTag text := by
  unfold endsTag
  split
  · exact absurd rfl plain
  · rfl

theorem isEmptyTag_iff (plain : text.head? ≠ some '/') :
    isEmptyTag text = true ↔ ∃ ending, TagEnd ending ∧ ending <+: text := by
  unfold isEmptyTag
  constructor
  · intro empty
    cases behind : afterTagName? text with
    | none =>
        rw [behind] at empty
        cases empty
    | some rest =>
        rw [behind] at empty
        obtain ⟨name, named, rfl⟩ := exists_name_of_afterTagName? behind
        rcases endsEmptyTag_iff.1 empty with ahead | ⟨blank, attributes, apart, inside, ahead⟩
        · exact ⟨_, .empty named, (List.prefix_append_right_inj _).2 ahead⟩
        · exact ⟨_, .attributed named apart inside, (List.prefix_append_right_inj _).2 ahead⟩
  · rintro ⟨ending, ends, more, rfl⟩
    cases ends with
    | closing => exact absurd rfl plain
    | empty named =>
        have stops : ('/' :: '>' :: more).head?.any isTagChar = false := rfl
        have behind := afterTagName?_of_name named stops
        rw [List.append_assoc]
        simp only [List.cons_append, List.nil_append, behind]
        exact endsEmptyTag_iff.2 (.inl ⟨more, rfl⟩)
    | @attributed name attributes blank named apart inside =>
        have stops : (blank :: (attributes ++ ['/', '>'] ++ more)).head?.any isTagChar = false :=
          isTagChar_of_isBlank apart
        have behind := afterTagName?_of_name named stops
        rw [List.append_assoc]
        simp only [List.cons_append, behind]
        exact endsEmptyTag_iff.2 (.inr ⟨blank, attributes, apart, inside, more, rfl⟩)

theorem endsTag_iff : endsTag text = true ↔ ∃ ending, TagEnd ending ∧ ending <+: text := by
  by_cases slash : text.head? = some '/'
  · obtain ⟨rest, rfl⟩ := List.head?_eq_some_iff.1 slash
    have closes : endsTag ('/' :: rest) = closesTag rest := rfl
    rw [closes, closesTag_iff]
    constructor
    · rintro ⟨ending, ends, ahead⟩
      exact ⟨_, ends, List.cons_prefix_cons.2 ⟨rfl, ahead⟩⟩
    · rintro ⟨ending, ends, ahead⟩
      cases ending with
      | nil => exact absurd rfl ends.ne_nil
      | cons c ending =>
          obtain ⟨rfl, later⟩ := List.cons_prefix_cons.1 ahead
          exact ⟨ending, ends, later⟩
  · rw [endsTag_of_ne_slash slash, isEmptyTag_iff slash]

def TagBehind (before text : Text) : Prop :=
  ∃ tag after, Tag tag ∧ text = before ++ (tag ++ after)

theorem hasMarkup_iff : hasMarkup text = true ↔ ∃ before, TagBehind before text := by
  induction text with
  | nil =>
      refine iff_of_false (by simp [hasMarkup]) ?_
      rintro ⟨before, _, after, ⟨ends⟩, split⟩
      simp at split
  | cons c text ih =>
      rw [hasMarkup_cons, Bool.or_eq_true, ih, Bool.and_eq_true, beq_iff_eq, endsTag_iff]
      constructor
      · rintro (⟨rfl, ending, ends, after, rfl⟩ | ⟨before, tag, after, isTag, rfl⟩)
        · exact ⟨[], _, after, ⟨ends⟩, rfl⟩
        · exact ⟨c :: before, tag, after, isTag, rfl⟩
      · rintro ⟨before, _, after, ⟨ends⟩, split⟩
        cases before with
        | nil =>
            obtain ⟨rfl, rfl⟩ := List.cons.inj split
            exact .inl ⟨rfl, _, ends, after, rfl⟩
        | cons d before =>
            obtain ⟨rfl, rfl⟩ := List.cons.inj split
            exact .inr ⟨before, _, after, ⟨ends⟩, rfl⟩

structure Gap (gap : Text) : Prop where
  some_blank : gap ≠ []
  blank : Text.allBlank gap = true

inductive ReactWords : Text → Prop
  | named {lead gap : Text} (blank : Text.allBlank lead = true) (apart : Gap gap) :
      ReactWords (lead ++ ("import".toList ++ (gap ++ "React".toList)))
  | whole {lead gap gap' gap'' : Text} (blank : Text.allBlank lead = true) (apart : Gap gap)
      (apart' : Gap gap') (apart'' : Gap gap'') :
      ReactWords (lead ++ ("import".toList ++ (gap ++ ("*".toList ++ (gap' ++
        ("as".toList ++ (gap'' ++ "React".toList)))))))

theorem gap_iff {gap : Text} : Gap gap ↔ gap ≠ [] ∧ ∀ c ∈ gap, Text.isBlank c = true := by
  rw [← List.all_eq_true]
  exact ⟨fun h => ⟨h.some_blank, h.blank⟩, fun h => ⟨h.1, h.2⟩⟩

theorem afterWord?_eq_some_iff : afterWord? word text = some rest ↔
    ∃ gap, Gap gap ∧ rest.head?.any Text.isBlank = false ∧ text = word ++ (gap ++ rest) := by
  unfold afterWord?
  simp only [Option.bind_eq_bind, Option.bind_eq_some_iff, Text.after?_eq_some_iff, gap_iff]
  constructor
  · rintro ⟨_, rfl, ⟨gap, _⟩, run, same⟩
    obtain rfl := Option.some.inj same
    obtain ⟨some_blank, blank, ends, rfl⟩ := Text.run?_eq_some_iff.1 run
    exact ⟨gap, ⟨some_blank, blank⟩, ends, rfl⟩
  · rintro ⟨gap, ⟨some_blank, blank⟩, ends, rfl⟩
    exact ⟨_, rfl, (gap, rest), Text.run?_append some_blank blank ends, rfl⟩

theorem startsWord_iff : startsWord word text = true ↔
    ∃ rest, rest.head?.any Text.isWord = false ∧ text = word ++ rest := by
  unfold startsWord
  constructor
  · intro starts
    cases behind : Text.after? word text with
    | none =>
        rw [behind] at starts
        cases starts
    | some rest =>
        rw [behind] at starts
        exact ⟨rest, by simpa using starts, Text.eq_append_of_after? behind⟩
  · rintro ⟨rest, ends, rfl⟩
    simp only [Text.after?_append, ends, Bool.not_false]

theorem afterStarAs?_eq_some_iff : afterStarAs? text = some rest ↔
    ∃ gap gap', Gap gap ∧ Gap gap' ∧ rest.head?.any Text.isBlank = false ∧
      text = "*".toList ++ (gap ++ ("as".toList ++ (gap' ++ rest))) := by
  unfold afterStarAs?
  simp only [Option.bind_eq_bind, Option.bind_eq_some_iff, afterWord?_eq_some_iff]
  constructor
  · rintro ⟨_, ⟨gap, apart, _, rfl⟩, gap', apart', ends, rfl⟩
    exact ⟨gap, gap', apart, apart', ends, rfl⟩
  · rintro ⟨gap, gap', apart, apart', ends, rfl⟩
    exact ⟨_, ⟨gap, apart, rfl, rfl⟩, gap', apart', ends, rfl⟩

theorem importsReact_iff : importsReact text = true ↔
    ∃ words rest, ReactWords words ∧ rest.head?.any Text.isWord = false ∧ text = words ++ rest := by
  unfold importsReact
  constructor
  · intro imports
    obtain ⟨lead, blank, split⟩ := Text.exists_trimStart text
    cases keyword : afterWord? "import".toList (Text.trimStart text) with
    | none =>
        rw [keyword] at imports
        cases imports
    | some behind =>
        simp only [keyword, Bool.or_eq_true, Option.any_eq_true] at imports
        obtain ⟨gap, apart, _, own⟩ := afterWord?_eq_some_iff.1 keyword
        rcases imports with named | ⟨last, starred, named⟩
        · obtain ⟨rest, ends, rfl⟩ := startsWord_iff.1 named
          refine ⟨_, rest, .named blank apart, ends, ?_⟩
          rw [split, own]
          simp only [List.append_assoc]
        · obtain ⟨gap', gap'', apart', apart'', _, rfl⟩ := afterStarAs?_eq_some_iff.1 starred
          obtain ⟨rest, ends, rfl⟩ := startsWord_iff.1 named
          refine ⟨_, rest, .whole blank apart apart' apart'', ends, ?_⟩
          rw [split, own]
          simp only [List.append_assoc]
  · rintro ⟨_, rest, words, ends, rfl⟩
    have trimmed : ∀ {lead : Text} (tail : Text), Text.allBlank lead = true →
        Text.trimStart (lead ++ ("import".toList ++ tail)) = "import".toList ++ tail :=
      fun tail blank => Text.trimStart_append blank (by decide) _
    cases words with
    | @named lead gap blank apart =>
        have keyword : afterWord? "import".toList ("import".toList ++ (gap ++ ("React".toList ++ rest))) =
            some ("React".toList ++ rest) :=
          afterWord?_eq_some_iff.2 ⟨gap, apart, rfl, rfl⟩
        simp only [List.append_assoc, trimmed _ blank, keyword, Bool.or_eq_true]
        exact .inl (startsWord_iff.2 ⟨rest, ends, rfl⟩)
    | @whole lead gap gap' gap'' blank apart apart' apart'' =>
        have starred : afterStarAs? ("*".toList ++ (gap' ++ ("as".toList ++ (gap'' ++
            ("React".toList ++ rest))))) = some ("React".toList ++ rest) :=
          afterStarAs?_eq_some_iff.2 ⟨gap', gap'', apart', apart'', rfl, rfl⟩
        have keyword := afterWord?_eq_some_iff.2 ⟨gap, apart, rfl,
          (rfl : "import".toList ++ (gap ++ ("*".toList ++ (gap' ++ ("as".toList ++ (gap'' ++
            ("React".toList ++ rest)))))) = _)⟩
        simp only [List.append_assoc, trimmed _ blank, keyword, starred, Bool.or_eq_true,
          Option.any_some]
        exact .inr (startsWord_iff.2 ⟨rest, ends, rfl⟩)

theorem someLineStart_cons (c : Char) (text : Text) :
    someLineStart p (c :: text) = (c == '\n' && p text || someLineStart p text) := by
  by_cases feed : c = '\n'
  · subst feed
    simp [someLineStart]
  · rw [someLineStart.eq_3 p c text (fun same => feed same)]
    simp [feed]

theorem someLineStart_iff : someLineStart p text = true ↔
    ∃ before rest, text = before ++ '\n' :: rest ∧ p rest = true := by
  induction text with
  | nil => simp [someLineStart]
  | cons c text ih =>
      rw [someLineStart_cons, Bool.or_eq_true, ih, Bool.and_eq_true, beq_iff_eq]
      constructor
      · rintro (⟨rfl, here⟩ | ⟨before, rest, rfl, later⟩)
        · exact ⟨[], text, rfl, here⟩
        · exact ⟨c :: before, rest, rfl, later⟩
      · rintro ⟨before, rest, split, holds⟩
        cases before with
        | nil =>
            obtain ⟨rfl, rfl⟩ := List.cons.inj split
            exact .inl ⟨rfl, holds⟩
        | cons d before =>
            obtain ⟨rfl, rfl⟩ := List.cons.inj split
            exact .inr ⟨before, rest, rfl, holds⟩

theorem atLineStart_iff : atLineStart p text = true ↔
    ∃ before rest, Closed before ∧ text = before ++ rest ∧ p rest = true := by
  unfold atLineStart
  rw [Bool.or_eq_true, someLineStart_iff]
  constructor
  · rintro (first | ⟨before, rest, rfl, later⟩)
    · exact ⟨[], text, .inl rfl, rfl, first⟩
    · exact ⟨before ++ ['\n'], rest, .inr (by simp), by simp, later⟩
  · rintro ⟨before, rest, rfl | feed, rfl, holds⟩
    · exact .inl holds
    · obtain ⟨before, rfl⟩ := List.getLast?_eq_some_iff.1 feed
      exact .inr ⟨before, rest, by simp, holds⟩

def ReactBehind (before text : Text) : Prop :=
  Closed before ∧ ∃ words rest, ReactWords words ∧ rest.head?.any Text.isWord = false ∧
    text = before ++ (words ++ rest)

theorem hasReactImport_iff : hasReactImport text = true ↔ ∃ before, ReactBehind before text := by
  unfold hasReactImport
  rw [atLineStart_iff]
  constructor
  · rintro ⟨before, _, closed, rfl, imports⟩
    obtain ⟨words, rest, isImport, ends, rfl⟩ := importsReact_iff.1 imports
    exact ⟨before, closed, words, rest, isImport, ends, rfl⟩
  · rintro ⟨before, closed, words, rest, isImport, ends, rfl⟩
    exact ⟨before, _, closed, rfl, importsReact_iff.2 ⟨words, rest, isImport, ends, rfl⟩⟩

theorem addReact_ne_none_iff : addReact text ≠ none ↔
    (∃ before, TagBehind before text) ∧ ∀ before, ¬ ReactBehind before text := by
  rw [ne_eq, addReact_eq_none_iff, not_or, Bool.not_eq_false, hasMarkup_iff, hasReactImport_iff,
    not_exists]

end DiagnosticRepair.TestImports
