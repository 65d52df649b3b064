import DiagnosticRepair.Proofs.Source.LibraryImport
import DiagnosticRepair.Proofs.Source.LineEndings
import DiagnosticRepair.Source.TestImports

namespace DiagnosticRepair

namespace LibraryImport

variable {text names symbol usage : Text}

def toCrlf (found : LibraryImport) : LibraryImport :=
  ⟨Text.toCrlf found.before, Text.toCrlf found.opening, Text.toCrlf found.names,
    Text.toCrlf found.closing, Text.toCrlf found.after⟩

theorem oneLine_testingLibrary : Text.OneLine Conventions.testingLibrary := by
  decide

theorem afterSource?_toCrlf (text : Text) :
    afterSource? (Text.toCrlf text) = (afterSource? text).map Text.toCrlf := by
  unfold afterSource?
  rw [Text.after?_toCrlf (by simp [Text.OneLine])]
  cases Text.after? "from" text with
  | none => rfl
  | some rest =>
      simp only [Option.map_some, Option.bind_eq_bind, Option.bind_some, Text.trimStart_toCrlf]
      cases Text.trimStart rest with
      | nil => rfl
      | cons mark rest =>
          by_cases feed : mark = '\n'
          · subst feed
            rfl
          · rw [Text.toCrlf_cons feed]
            cases quote : isQuote mark with
            | false => simp [quote]
            | true =>
                simp only [quote, if_true, Text.after?_toCrlf oneLine_testingLibrary]
                cases Text.after? Conventions.testingLibrary rest with
                | none => rfl
                | some rest =>
                    cases rest with
                    | nil => rfl
                    | cons mark rest =>
                        by_cases feed : mark = '\n'
                        · subst feed
                          rfl
                        · simp only [Option.map_some, Option.bind_some, Text.toCrlf_cons feed]
                          cases isQuote mark <;> rfl

theorem cutSource?_toCrlf (text : Text) : cutSource? (Text.toCrlf text) =
    (cutSource? text).map fun (clause, after) => (Text.toCrlf clause, Text.toCrlf after) := by
  induction text with
  | nil => rfl
  | cons c rest ih =>
      cases here : afterSource? (c :: rest) with
      | some behind =>
          obtain ⟨clause, source, split, cut⟩ := cutSource?_cons_of_source here
          have there := afterSource?_toCrlf (c :: rest)
          obtain ⟨word, rfl, _⟩ := source_starts source
          obtain ⟨rfl, rfl⟩ := List.cons.inj split
          rw [here, Option.map_some, Text.toCrlf_cons (by decide)] at there
          obtain ⟨clause', _, split', cut'⟩ := cutSource?_cons_of_source there
          rw [← Text.toCrlf_cons (by decide), split, Text.toCrlf_append] at split'
          rw [Text.toCrlf_cons (by decide), cut', cut, ← List.append_cancel_right split']
          rfl
      | none =>
          have there := afterSource?_toCrlf (c :: rest)
          rw [here] at there
          rw [cutSource?_cons_of_none here]
          by_cases feed : c = '\n'
          · subst feed
            rw [if_pos rfl, Text.toCrlf_feed, cutSource?_cons_of_none (by rfl), if_neg (by decide),
              cutSource?_cons_of_none (by rfl), if_pos rfl]
            rfl
          · rw [Text.toCrlf_cons feed] at there ⊢
            rw [cutSource?_cons_of_none there, if_neg feed, if_neg feed, ih]
            cases cutSource? rest with
            | none => rfl
            | some cut => simp [Text.toCrlf_cons feed]

theorem readNames?_toCrlf (text : Text) : readNames? (Text.toCrlf text) =
    (readNames? text).map fun (names, closing, after) =>
      (Text.toCrlf names, Text.toCrlf closing, Text.toCrlf after) := by
  unfold readNames?
  simp only [Text.takeWhile_toCrlf (p := (· != closeBrace)) (by decide),
    Text.dropWhile_toCrlf (p := (· != closeBrace)) (by decide)]
  cases behind : text.dropWhile (· != closeBrace) with
  | nil => rfl
  | cons c rest =>
      have brace : c = closeBrace := by
        have := List.head?_dropWhile_not (· != closeBrace) text
        simpa [behind] using this
      subst brace
      rw [Text.toCrlf_cons (by decide)]
      simp only [cutSource?_toCrlf]
      cases cutSource? rest with
      | none => rfl
      | some cut => simp [Text.toCrlf_cons (show closeBrace ≠ '\n' by decide)]

theorem openOnLine?_toCrlf (text : Text) :
    openOnLine? (Text.toCrlf text) = (openOnLine? text).map toCrlf := by
  induction text with
  | nil => rfl
  | cons c rest ih =>
      by_cases feed : c = '\n'
      · subst feed
        rfl
      · rw [Text.toCrlf_cons feed]
        by_cases reads : c = openBrace → readNames? rest = none
        · have reads' : c = openBrace → readNames? (Text.toCrlf rest) = none := by
            intro opens
            rw [readNames?_toCrlf, reads opens]
            rfl
          rw [openOnLine?_cons reads, openOnLine?_cons reads', if_neg feed, if_neg feed, ih]
          cases openOnLine? rest with
          | none => rfl
          | some later => simp [toCrlf, Text.toCrlf_cons feed]
        · rw [Classical.not_imp, ← ne_eq, Option.ne_none_iff_exists'] at reads
          obtain ⟨opens, read, found⟩ := reads
          have found' := readNames?_toCrlf rest
          rw [found, Option.map_some] at found'
          rw [openOnLine?_of_names opens found, openOnLine?_of_names opens found', Option.map_some]
          simp [toCrlf, Text.toCrlf_cons feed]

theorem startsType_toCrlf (text : Text) : startsType (Text.toCrlf text) = startsType text := by
  unfold startsType
  rw [Text.after?_toCrlf (by simp [Text.OneLine])]
  cases Text.after? "type".toList text with
  | none => rfl
  | some rest => exact congrArg (!·) (Text.any_head?_toCrlf (by decide) rest)

theorem tooFewBlanks_toCrlf (blanks : Text) (some_blank : blanks ≠ []) :
    ((Text.toCrlf blanks).length < 2 ∨ (Text.toCrlf blanks).getLast? = some '\n') ↔
      (blanks.length < 2 ∨ blanks.getLast? = some '\n') := by
  -- A single line break counts as one blank or two, but is a line feed at the end either way.
  rw [Text.getLast?_toCrlf]
  rcases blanks with _ | ⟨c, _ | ⟨d, rest⟩⟩
  · exact absurd rfl some_blank
  · by_cases feed : c = '\n' <;> simp [Text.toCrlf, feed]
  · have long : 2 ≤ (Text.toCrlf (c :: d :: rest)).length := by
      by_cases feed : c = '\n' <;> by_cases feed' : d = '\n' <;> simp [Text.toCrlf, feed, feed']
    have long' : 2 ≤ (c :: d :: rest).length := by simp
    rw [or_iff_right (Nat.not_lt.2 long), or_iff_right (Nat.not_lt.2 long')]

theorem read?_toCrlf (text : Text) : read? (Text.toCrlf text) = (read? text).map toCrlf := by
  unfold read?
  rw [Text.after?_toCrlf (by simp [Text.OneLine])]
  cases Text.after? "import".toList text with
  | none => rfl
  | some first =>
      simp only [Option.map_some, Option.bind_eq_bind, Option.bind_some,
        Text.run?_toCrlf (p := Text.isBlank) (by decide)]
      cases run : Text.run? Text.isBlank first with
      | none => rfl
      | some parts =>
          obtain ⟨blanks, rest⟩ := parts
          have some_blank := (Text.eq_of_run? run).1
          simp only [Option.map_some, Option.bind_some, openOnLine?_toCrlf, startsType_toCrlf]
          cases openOnLine? rest with
          | none => rfl
          | some found =>
              have few := tooFewBlanks_toCrlf blanks some_blank
              simp only [Option.map_some, Option.bind_some, Bool.and_eq_true, Bool.or_eq_true,
                decide_eq_true_iff, few]
              split
              · rfl
              · simp [toCrlf, Text.toCrlf_append, Text.toCrlf]

theorem findFrom_toCrlf (joined : Bool) (text : Text) :
    findFrom joined (Text.toCrlf text) = (findFrom joined text).map toCrlf := by
  induction text generalizing joined with
  | nil => rfl
  | cons c rest ih =>
      by_cases feed : c = '\n'
      · subst feed
        have apart : Text.isWord '\r' = Text.isWord '\n' := by decide
        have none_starts : ∀ d rest, d ≠ 'i' → read? (d :: rest) = none := by
          intro d rest differs
          have : "import".toList.isPrefixOf (d :: rest) = false := by
            rw [show "import".toList = 'i' :: "mport".toList from rfl, List.isPrefixOf_cons_cons,
              beq_false_of_ne (Ne.symm differs), Bool.false_and]
          unfold read? Text.after?
          rw [this]
          rfl
        rw [Text.toCrlf_feed, findFrom, findFrom, findFrom, none_starts _ _ (by decide),
          none_starts _ _ (by decide), none_starts _ _ (by decide), ih, apart]
        simp only [ite_self]
        cases findFrom (Text.isWord '\n') rest with
        | none => rfl
        | some later => rfl
      · have here := read?_toCrlf (c :: rest)
        rw [Text.toCrlf_cons feed] at here ⊢
        rw [findFrom, findFrom, here, ih]
        cases joined with
        | true =>
            simp only [if_true]
            cases findFrom (Text.isWord c) rest with
            | none => rfl
            | some later => simp [toCrlf, Text.toCrlf_cons feed]
        | false =>
            simp only [Bool.false_eq_true, if_false]
            cases read? (c :: rest) with
            | some found => rfl
            | none =>
                cases findFrom (Text.isWord c) rest with
                | none => rfl
                | some later => simp [toCrlf, Text.toCrlf_cons feed]

theorem text_toCrlf (found : LibraryImport) : found.toCrlf.text = Text.toCrlf found.text := by
  simp [LibraryImport.text, toCrlf, Text.toCrlf_append]

theorem body_toCrlf (found : LibraryImport) : found.toCrlf.body = Text.toCrlf found.body := by
  simp [body, toCrlf, Text.toCrlf_append]

theorem boundNames_toCrlf (item : Text) :
    boundNames (Text.toCrlf item) = (boundNames item).map Text.toCrlf := by
  unfold boundNames
  simp only [Text.trim_toCrlf, Text.isEmpty_toCrlf]
  split
  · rfl
  · have token : ∀ token : Text, (Text.after? "type ".toList (Text.toCrlf token)).getD
        (Text.toCrlf token) = Text.toCrlf ((Text.after? "type ".toList token).getD token) := by
      intro token
      rw [Text.after?_toCrlf (by simp [Text.OneLine])]
      cases Text.after? "type ".toList token <;> rfl
    rw [token, Text.trim_toCrlf, Text.splitOn_toCrlf (by simp [Text.OneLine]) (by decide)]
    generalize Text.splitOn " as ".toList _ = parts
    have nil : ∀ part : Option Text,
        Text.trim ((part.map Text.toCrlf).getD []) = Text.toCrlf (Text.trim (part.getD [])) := by
      intro part
      cases part with
      | none => rfl
      | some part => exact Text.trim_toCrlf part
    simp [nil]

theorem mem_bindings_toCrlf (h : symbol.OneLine) (names : Text) :
    symbol ∈ bindings (Text.toCrlf names) ↔ symbol ∈ bindings names := by
  have all : bindings (Text.toCrlf names) = (bindings names).map Text.toCrlf := by
    unfold bindings
    rw [Text.splitOn_toCrlf (by simp [Text.OneLine]) (by decide), List.flatMap_map, List.map_flatMap]
    exact congrArg (List.flatMap · _) (funext boundNames_toCrlf)
  rw [all, List.mem_map]
  constructor
  · rintro ⟨name, member, same⟩
    have unbroken : '\n' ∉ name := by
      intro feed
      obtain ⟨above, below, rfl⟩ := List.append_of_mem feed
      rw [Text.toCrlf_append, Text.toCrlf_feed] at same
      exact (h '\n' (by simp [← same])).2 rfl
    rwa [← same, Text.toCrlf_of_unbroken unbroken]
  · exact fun member => ⟨symbol, member, h.toCrlf_eq⟩

theorem widenNames_toCrlf (h : symbol.OneLine) (names : Text) :
    widenNames (Text.toCrlf names) symbol = Text.toCrlf (widenNames names symbol) := by
  unfold widenNames
  rw [Text.trim_toCrlf, Text.dropEndWhile_toCrlf (by decide), Text.trim_toCrlf]
  simp only [Text.isEmpty_toCrlf]
  split
  · exact h.toCrlf_eq.symm
  · rw [Text.toCrlf_append, Text.toCrlf_append, h.toCrlf_eq]
    rfl

theorem widen_toCrlf (h : symbol.OneLine) (found : LibraryImport) :
    found.toCrlf.widen symbol = (found.widen symbol).toCrlf := by
  unfold widen toCrlf
  rw [widenNames_toCrlf h]
  simp [Text.toCrlf_append, Text.toCrlf]

theorem addIfUsed_toCrlf (h : symbol.OneLine) (h' : usage.OneLine) (noReturn : '\r' ∉ text) :
    addIfUsed symbol usage (Text.toCrlf text) = (addIfUsed symbol usage text).map Text.toCrlf := by
  unfold addIfUsed find?
  rw [findFrom_toCrlf]
  cases found_import : findFrom false text with
  | none => rfl
  | some found =>
      have noReturn : '\r' ∉ found.body := by
        intro member
        refine noReturn ?_
        rw [(findFrom_sound found_import).1.cut]
        unfold body at member
        unfold LibraryImport.text
        simp only [List.mem_append] at member ⊢
        rcases member with before | after
        · simp [before]
        · simp [after]
      have listed : symbol ∈ bindings found.toCrlf.names ↔ symbol ∈ bindings found.names :=
        mem_bindings_toCrlf h found.names
      simp only [Option.map_some, Option.bind_eq_bind, Option.bind_some, body_toCrlf,
        Text.occursIn_toCrlf h' noReturn, widen_toCrlf h, text_toCrlf, listed]
      split <;> rfl

end LibraryImport

namespace Text

variable {p : Char → Bool} {text statement : Text}

theorem head?_toCrlf {c : Char} (h : OneLine [c]) (text : Text) :
    (toCrlf text).head? = some c ↔ text.head? = some c := by
  obtain ⟨noReturn, noFeed⟩ := h c (List.mem_singleton_self c)
  cases text with
  | nil => rfl
  | cons d rest =>
      by_cases feed : d = '\n'
      · subst feed
        simp [Ne.symm noReturn, Ne.symm noFeed]
      · rw [toCrlf_cons feed]
        rfl

theorem drop_takeWhile (p : Char → Bool) (text : Text) :
    text.drop (text.takeWhile p).length = text.dropWhile p := by
  have cut : (text.takeWhile p ++ text.dropWhile p).drop (text.takeWhile p).length =
      text.dropWhile p := List.drop_left
  rwa [List.takeWhile_append_dropWhile] at cut

end Text

namespace TestImports

variable {p : Text → Bool} {text word statement : Text}

theorem afterTagName?_toCrlf (text : Text) :
    afterTagName? (Text.toCrlf text) = (afterTagName? text).map Text.toCrlf := by
  cases text with
  | nil => rfl
  | cons c rest =>
      by_cases feed : c = '\n'
      · subst feed
        rfl
      · rw [Text.toCrlf_cons feed, afterTagName?, afterTagName?,
          Text.dropWhile_toCrlf (p := isTagChar) (by decide)]
        split <;> rfl

theorem closesTag_toCrlf (text : Text) : closesTag (Text.toCrlf text) = closesTag text := by
  unfold closesTag
  rw [afterTagName?_toCrlf]
  cases afterTagName? text with
  | none => rfl
  | some rest =>
      simp only [Option.map_some, Text.trimStart_toCrlf]
      rw [decide_eq_decide]
      exact Text.head?_toCrlf (by simp [Text.OneLine]) _

def attributesEnd (text : Text) : Bool :=
  let isInside c := c != '<' && c != '>'
  (text.takeWhile isInside).getLast? = some '/' && (text.dropWhile isInside).head? = some '>'

theorem endsEmptyTag_cons (c : Char) (rest : Text) : endsEmptyTag (c :: rest) =
    (c == '/' && rest.head? == some '>' || Text.isBlank c && attributesEnd rest) := by
  by_cases slash : c = '/'
  · subst slash
    have : Text.isBlank '/' = false := by decide
    cases rest with
    | nil => simp [endsEmptyTag, this]
    | cons d rest =>
        by_cases close : d = '>'
        · subst close
          rfl
        · simp [endsEmptyTag, this, close]
  · have : endsEmptyTag (c :: rest) = (Text.isBlank c && attributesEnd rest) := by
      unfold endsEmptyTag
      split
      · rename_i same
        exact absurd (List.cons.inj same).1 slash
      · rename_i same
        obtain ⟨rfl, rfl⟩ := List.cons.inj same
        simp only [Text.drop_takeWhile]
        rfl
      · rename_i none
        cases none
    simp [this, slash]

theorem attributesEnd_toCrlf (text : Text) :
    attributesEnd (Text.toCrlf text) = attributesEnd text := by
  unfold attributesEnd
  simp only [Text.takeWhile_toCrlf (p := fun c => c != '<' && c != '>') (by decide),
    Text.dropWhile_toCrlf (p := fun c => c != '<' && c != '>') (by decide), Text.getLast?_toCrlf]
  congr 1
  rw [decide_eq_decide]
  exact Text.head?_toCrlf (by simp [Text.OneLine]) _

theorem attributesEnd_feed (text : Text) : attributesEnd ('\n' :: text) = attributesEnd text := by
  have inside : ('\n' != '<' && '\n' != '>') = true := by decide
  unfold attributesEnd
  simp only [List.takeWhile_cons, List.dropWhile_cons, inside, if_true, List.getLast?_cons]
  cases (text.takeWhile fun c => c != '<' && c != '>').getLast? <;> simp

theorem endsEmptyTag_toCrlf (text : Text) : endsEmptyTag (Text.toCrlf text) = endsEmptyTag text := by
  cases text with
  | nil => rfl
  | cons c rest =>
      by_cases feed : c = '\n'
      · subst feed
        rw [Text.toCrlf_feed, endsEmptyTag_cons, endsEmptyTag_cons, attributesEnd_feed,
          attributesEnd_toCrlf]
        rfl
      · have close : ((Text.toCrlf rest).head? == some '>') = (rest.head? == some '>') := by
          rw [Bool.eq_iff_iff, beq_iff_eq, beq_iff_eq]
          exact Text.head?_toCrlf (by simp [Text.OneLine]) rest
        rw [Text.toCrlf_cons feed, endsEmptyTag_cons, endsEmptyTag_cons, attributesEnd_toCrlf, close]

def endsTag : Text → Bool
  | '/' :: rest => closesTag rest
  | rest => isEmptyTag rest

theorem endsTag_toCrlf (text : Text) : endsTag (Text.toCrlf text) = endsTag text := by
  have empty : isEmptyTag (Text.toCrlf text) = isEmptyTag text := by
    unfold isEmptyTag
    rw [afterTagName?_toCrlf]
    cases afterTagName? text with
    | none => rfl
    | some rest => exact endsEmptyTag_toCrlf rest
  cases text with
  | nil => rfl
  | cons c rest =>
      by_cases slash : c = '/'
      · subst slash
        exact closesTag_toCrlf rest
      · have plain : ∀ rest, endsTag (c :: rest) = isEmptyTag (c :: rest) := by
          intro rest
          unfold endsTag
          split
          · rename_i same
            exact absurd (List.cons.inj same).1 slash
          · rfl
        by_cases feed : c = '\n'
        · subst feed
          rfl
        · rw [Text.toCrlf_cons feed] at empty ⊢
          rw [plain, plain, empty]

theorem hasMarkup_cons (c : Char) (rest : Text) :
    hasMarkup (c :: rest) = (c == '<' && endsTag rest || hasMarkup rest) := by
  by_cases opens : c = '<'
  · subst opens
    cases rest with
    | nil => rfl
    | cons d rest =>
        by_cases slash : d = '/'
        · subst slash
          simp [hasMarkup, endsTag]
        · simp [hasMarkup, endsTag, slash]
  · have : hasMarkup (c :: rest) = hasMarkup rest := by
      rw [hasMarkup]
      · exact fun _ same _ => opens same
      · exact opens
    simp [this, opens]

theorem hasMarkup_toCrlf (text : Text) : hasMarkup (Text.toCrlf text) = hasMarkup text := by
  induction text with
  | nil => rfl
  | cons c rest ih =>
      by_cases feed : c = '\n'
      · subst feed
        rw [Text.toCrlf_feed, hasMarkup_cons, hasMarkup_cons, hasMarkup_cons, ih]
        rfl
      · rw [Text.toCrlf_cons feed, hasMarkup_cons, hasMarkup_cons, endsTag_toCrlf, ih]

theorem atLineStart_toCrlf (same : ∀ text, p (Text.toCrlf text) = p text) (text : Text) :
    atLineStart p (Text.toCrlf text) = atLineStart p text := by
  have later : someLineStart p (Text.toCrlf text) = someLineStart p text := by
    induction text with
    | nil => rfl
    | cons c rest ih =>
        by_cases feed : c = '\n'
        · subst feed
          simp [someLineStart, same, ih]
        · simp [Text.toCrlf_cons feed, someLineStart, ih]
  rw [atLineStart, atLineStart, same, later]

theorem afterWord?_toCrlf (h : word.OneLine) (text : Text) :
    afterWord? word (Text.toCrlf text) = (afterWord? word text).map Text.toCrlf := by
  unfold afterWord?
  rw [Text.after?_toCrlf h]
  cases Text.after? word text with
  | none => rfl
  | some rest =>
      simp only [Option.map_some, Option.bind_eq_bind, Option.bind_some,
        Text.run?_toCrlf (p := Text.isBlank) (by decide)]
      cases Text.run? Text.isBlank rest <;> rfl

theorem startsWord_toCrlf (h : word.OneLine) (text : Text) :
    startsWord word (Text.toCrlf text) = startsWord word text := by
  unfold startsWord
  rw [Text.after?_toCrlf h]
  cases Text.after? word text with
  | none => rfl
  | some rest => exact congrArg (!·) (Text.any_head?_toCrlf (by decide) rest)

theorem importsReact_toCrlf (text : Text) :
    importsReact (Text.toCrlf text) = importsReact text := by
  unfold importsReact
  rw [Text.trimStart_toCrlf, afterWord?_toCrlf (by simp [Text.OneLine])]
  cases afterWord? "import".toList (Text.trimStart text) with
  | none => rfl
  | some rest =>
      have star : afterStarAs? (Text.toCrlf rest) = (afterStarAs? rest).map Text.toCrlf := by
        unfold afterStarAs?
        rw [afterWord?_toCrlf (by simp [Text.OneLine])]
        cases afterWord? "*".toList rest with
        | none => rfl
        | some rest => exact afterWord?_toCrlf (by simp [Text.OneLine]) rest
      have word : Text.OneLine "React".toList := by simp [Text.OneLine]
      simp only [Option.map_some, star, startsWord_toCrlf word]
      cases afterStarAs? rest with
      | none => rfl
      | some rest =>
          simp only [Option.map_some, Option.any_some, startsWord_toCrlf word]

theorem usesMatcher_toCrlf (noReturn : '\r' ∉ text) :
    usesMatcher (Text.toCrlf text) = usesMatcher text := by
  have plain : ∀ matcher ∈ Conventions.elementMatchers, matcher.OneLine := by
    decide +kernel
  unfold usesMatcher
  rw [Bool.eq_iff_iff, List.any_eq_true, List.any_eq_true]
  constructor
  · rintro ⟨matcher, known, found⟩
    exact ⟨matcher, known, Text.occursIn_toCrlf (plain matcher known) noReturn ▸ found⟩
  · rintro ⟨matcher, known, found⟩
    exact ⟨matcher, known, (Text.occursIn_toCrlf (plain matcher known) noReturn).trans found⟩

theorem insertLine_toCrlf (h : statement.OneLine) (noReturn : '\r' ∉ text) (broken : '\n' ∈ text)
    (index : List Text → Nat) :
    insertLine (Text.toCrlf text) statement index = Text.toCrlf (insertLine text statement index) := by
  unfold insertLine
  simp only [LineEnding.ofText_toCrlf broken, LineEnding.ofText_of_noReturn noReturn,
    LineEnding.crlf_split_toCrlf noReturn]
  refine LineEnding.crlf_join _ fun line member => ?_
  rcases List.mem_append.1 member with above | below
  · exact LineEnding.unbroken_of_mem_split (List.mem_of_mem_take above)
  · rcases List.mem_cons.1 below with rfl | below
    · exact fun feed => (h _ feed).2 rfl
    · exact LineEnding.unbroken_of_mem_split (List.mem_of_mem_drop below)

theorem oneLine_reactImport : Conventions.reactImport.OneLine := by
  decide

theorem oneLine_matcherImport : Conventions.matcherImport.OneLine := by
  decide

theorem addReact_toCrlf (noReturn : '\r' ∉ text) (broken : '\n' ∈ text) :
    addReact (Text.toCrlf text) = (addReact text).map Text.toCrlf := by
  unfold addReact hasReactImport
  rw [hasMarkup_toCrlf, atLineStart_toCrlf importsReact_toCrlf,
    insertLine_toCrlf oneLine_reactImport noReturn broken]
  split <;> rfl

theorem addMatchers_toCrlf (noReturn : '\r' ∉ text) (broken : '\n' ∈ text) :
    addMatchers (Text.toCrlf text) = (addMatchers text).map Text.toCrlf := by
  unfold addMatchers
  rw [usesMatcher_toCrlf noReturn, Text.occursIn_toCrlf (by simp [Text.OneLine]) noReturn,
    insertLine_toCrlf oneLine_matcherImport noReturn broken]
  split <;> rfl

/-- A text of whole lines that end in line feeds. -/
def WholeLines (text : Text) : Prop :=
  '\r' ∉ text ∧ text.getLast? = some '\n'

def Broken (text : Text) : Prop :=
  '\r' ∉ text ∧ '\n' ∈ text

theorem WholeLines.broken (h : WholeLines text) : Broken text :=
  ⟨h.1, List.mem_of_getLast? h.2⟩

theorem wholeLines_addIfUsed {symbol usage widened : Text} (h : symbol.OneLine)
    (done : LibraryImport.addIfUsed symbol usage text = some widened) (ends : WholeLines text) :
    WholeLines widened := by
  -- Widening an import changes nothing behind its closing quote, so the last line keeps its end.
  unfold LibraryImport.addIfUsed at done
  cases first : LibraryImport.find? text with
  | none =>
      rw [first] at done
      cases done
  | some found =>
      simp only [first, Option.bind_eq_bind, Option.bind_some] at done
      split at done
      · cases done
      · obtain rfl := Option.some.inj done
        obtain ⟨_, cut, _, _, closes⟩ :=
          (LibraryImport.find?_eq_some_iff.1 first).1
        obtain ⟨noReturn, last⟩ := ends
        rw [cut] at noReturn last
        unfold LibraryImport.text at noReturn last ⊢
        constructor
        · intro member
          simp only [List.mem_append, not_or] at noReturn member
          rcases member with (((before | opening) | inside) | closing) | after
          · exact noReturn.1.1.1.1 before
          · exact noReturn.1.1.1.2 opening
          · rcases LibraryImport.mem_widen inside with old | new | comma | blank
            · exact noReturn.1.1.2 old
            · exact (h _ new).1 rfl
            · cases comma
            · cases blank
          · exact noReturn.1.2 closing
          · exact noReturn.2 after
        · obtain ⟨mark, quote, closed⟩ := LibraryImport.getLast?_closing closes
          cases behind : found.after.getLast? with
          | some c =>
              have same : (found.widen symbol).after = found.after := rfl
              simp only [List.getLast?_append, same, behind, Option.some_or] at last ⊢
              exact last
          | none =>
              simp only [List.getLast?_append, behind, closed, Option.none_or, Option.some_or,
                Option.some.injEq] at last
              subst last
              exact absurd quote (by decide)

theorem broken_insertLine (h : statement.OneLine) (noReturn : '\r' ∉ text)
    (index : List Text → Nat) : Broken (insertLine text statement index) := by
  unfold insertLine
  simp only [LineEnding.ofText_of_noReturn noReturn]
  have some_line := List.length_pos_iff.2 (LineEnding.split_ne_nil .lf text)
  constructor
  · intro member
    rcases Text.mem_join member with between | ⟨line, inside, member⟩
    · cases List.mem_singleton.1 between
    · rcases List.mem_append.1 inside with above | below
      · exact noReturn (Text.mem_of_mem_splitOn (List.mem_of_mem_take above) member)
      · rcases List.mem_cons.1 below with new | below
        · exact (h _ (new ▸ member)).1 rfl
        · exact noReturn (Text.mem_of_mem_splitOn (List.mem_of_mem_drop below) member)
  · refine Text.subset_join_of_separator ?_ (List.mem_singleton_self '\n')
    simp only [List.length_append, List.length_cons, List.length_take, List.length_drop]
    omega

structure Transports (P : Text → Prop) (check : Check) : Prop where
  same : ∀ {text}, P text → check.mend (Text.toCrlf text) = (check.mend text).map Text.toCrlf
  kept : ∀ {text mended}, P text → check.mend text = some mended → P mended

theorem transports_addIfUsed {symbol usage : Text} (h : symbol.OneLine) (h' : usage.OneLine)
    (description : Text) :
    Transports WholeLines ⟨description, LibraryImport.addIfUsed symbol usage⟩ where
  same lines := LibraryImport.addIfUsed_toCrlf h h' lines.1
  kept lines done := wholeLines_addIfUsed h done lines

theorem transports_addReact (description : Text) : Transports Broken ⟨description, addReact⟩ where
  same broken := addReact_toCrlf broken.1 broken.2
  kept broken done := by
    change addReact _ = some _ at done
    unfold addReact at done
    split at done
    · cases done
    · rw [← Option.some.inj done]
      exact broken_insertLine oneLine_reactImport broken.1 _

theorem transports_addMatchers (description : Text) :
    Transports Broken ⟨description, addMatchers⟩ where
  same broken := addMatchers_toCrlf broken.1 broken.2
  kept broken done := by
    change addMatchers _ = some _ at done
    unfold addMatchers at done
    split at done
    · cases done
    · rw [← Option.some.inj done]
      exact broken_insertLine oneLine_matcherImport broken.1 _

theorem step_toCrlf {P : Text → Prop} {check : Check} (h : Transports P check)
    {state : Text × List Text} (holds : P state.1) :
    Check.step (Text.toCrlf state.1, state.2) check =
        (Text.toCrlf (Check.step state check).1, (Check.step state check).2) ∧
      P (Check.step state check).1 := by
  have kept := @h.kept state.1
  unfold Check.step
  rw [h.same holds]
  cases done : check.mend state.1 with
  | none => exact ⟨rfl, holds⟩
  | some mended => exact ⟨rfl, kept holds done⟩

theorem run_toCrlf {P : Text → Prop} {some_checks : List Check}
    (h : ∀ check ∈ some_checks, Transports P check) {state : Text × List Text} (holds : P state.1) :
    some_checks.foldl Check.step (Text.toCrlf state.1, state.2) =
        (Text.toCrlf (some_checks.foldl Check.step state).1,
          (some_checks.foldl Check.step state).2) ∧
      P (some_checks.foldl Check.step state).1 := by
  induction some_checks generalizing state with
  | nil => exact ⟨rfl, holds⟩
  | cons check rest ih =>
      obtain ⟨same, kept⟩ := step_toCrlf (h check (List.mem_cons_self ..)) holds
      rw [List.foldl_cons, List.foldl_cons, same]
      exact ih (fun other member => h other (List.mem_cons_of_mem _ member)) kept

theorem fix_toCrlf (h : WholeLines text) :
    fix (Text.toCrlf text) = (Text.toCrlf (fix text).1, (fix text).2) := by
  have widenings : ∀ check ∈ checks.take 2, Transports WholeLines check := by
    simp only [checks, List.take, List.mem_cons, List.not_mem_nil, or_false, forall_eq_or_imp,
      forall_eq]
    constructor <;> exact transports_addIfUsed (by simp [Text.OneLine]) (by simp [Text.OneLine]) _
  have insertions : ∀ check ∈ checks.drop 2, Transports Broken check := by
    simp only [checks, List.drop, List.mem_cons, List.not_mem_nil, or_false, forall_eq_or_imp,
      forall_eq]
    exact ⟨transports_addReact _, transports_addMatchers _⟩
  unfold fix
  rw [← List.take_append_drop 2 checks, List.foldl_append, List.foldl_append]
  have widened : WholeLines ((text, []) : Text × List Text).1 := h
  obtain ⟨same, lines⟩ := run_toCrlf widenings widened
  rw [same]
  exact (run_toCrlf insertions lines.broken).1

end TestImports

theorem fixers_toCrlf {text : Text} (lines : TestImports.WholeLines text)
    {names : List UnusedName}
    (named : ∀ unused ∈ names, unused.name ≠ [] ∧ ∀ c ∈ unused.name, Text.isNameChar c = true)
    {statements : List Text} (plain : ∀ statement ∈ statements, statement.OneLine)
    {here : Location} {root : Path} (rooted : ∀ name ∈ root.location here, name.text.OneLine)
    (testFile : Path) :
    ((UnusedNames.rename (Text.toCrlf text) names).text =
        Text.toCrlf (UnusedNames.rename text names).text ∧
      (UnusedNames.rename (Text.toCrlf text) names).renamed =
        (UnusedNames.rename text names).renamed ∧
      (UnusedNames.rename (Text.toCrlf text) names).missed =
        (UnusedNames.rename text names).missed) ∧
    ImportBlock.insert (Text.toCrlf text) statements =
      (Text.toCrlf (ImportBlock.insert text statements).1, (ImportBlock.insert text statements).2) ∧
    Alias.resolve here (Text.toCrlf text) testFile root Conventions.aliases =
      (Text.toCrlf (Alias.resolve here text testFile root Conventions.aliases).1,
        (Alias.resolve here text testFile root Conventions.aliases).2) ∧
    TestImports.fix (Text.toCrlf text) =
      (Text.toCrlf (TestImports.fix text).1, (TestImports.fix text).2) := by
  obtain ⟨renamed, unbroken⟩ := UnusedNames.rename_toCrlf text named
  refine ⟨⟨?_, ?_, ?_⟩, ImportBlock.insert_toCrlf lines.1 lines.broken.2 plain,
    Alias.resolve_toCrlf rooted text, TestImports.fix_toCrlf lines⟩
  · rw [renamed]
    exact LineEnding.lf_join_withReturns _ unbroken
  · rw [renamed]
    rfl
  · rw [renamed]
    rfl

def renderingLines : List Text := [
  "import \x7b render \x7d from '@testing-library/react';",
  "import x from '@/lib/x';",
  "render(<A/>);",
  "screen.a(x);",
  []]

theorem fixers_toCrlf_rendering :
    (UnusedNames.rename (Text.toCrlf (LineEnding.lf.join renderingLines))
      [⟨"a.test.tsx", "x", 2⟩, ⟨"a.test.tsx", "y", 2⟩]).missed = [⟨"a.test.tsx", "y", 2⟩] ∧
    (ImportBlock.insert (Text.toCrlf (LineEnding.lf.join renderingLines))
      ["import a from 'a';", "import x from '@/lib/x'"]).2 = ["import a from 'a';".toList] ∧
    (Alias.resolve [] (Text.toCrlf (LineEnding.lf.join renderingLines)) (Path.ofText "a.test.tsx")
      ⟨.root, []⟩ Conventions.aliases).2 = ["Fixed import: @/lib -> ./app/_lib".toList] ∧
    TestImports.fix (Text.toCrlf (LineEnding.lf.join renderingLines)) =
      (Text.toCrlf (LineEnding.lf.join (
        "import React from 'react';".toList ::
          "import \x7b render, screen \x7d from '@testing-library/react';".toList ::
            renderingLines.tail)),
        ["Added screen to testing-library import".toList, "Added React import for JSX".toList]) := by
  have lines : TestImports.WholeLines (LineEnding.lf.join renderingLines) := by
    unfold TestImports.WholeLines
    decide +kernel
  have named : ∀ unused ∈ [(⟨"a.test.tsx", "x", 2⟩ : UnusedName), ⟨"a.test.tsx", "y", 2⟩],
      unused.name ≠ [] ∧ ∀ c ∈ unused.name, Text.isNameChar c = true := by
    simp only [← List.all_eq_true]
    decide +kernel
  have plain : ∀ statement ∈ ["import a from 'a';".toList, "import x from '@/lib/x'".toList],
      Text.OneLine statement := by
    decide +kernel
  have rooted : ∀ name ∈ Path.location [] ⟨.root, []⟩, name.text.OneLine := by
    simp [Path.location, Location.follow]
  obtain ⟨⟨_, _, missed⟩, inserted, resolved, fixed⟩ :=
    fixers_toCrlf lines named plain rooted (Path.ofText "a.test.tsx")
  rw [missed, inserted, resolved, fixed]
  decide +kernel

end DiagnosticRepair
