import DiagnosticRepair.Proofs.Source.ImportedNames
import DiagnosticRepair.Proofs.Source.ImportRun
import DiagnosticRepair.Proofs.Source.TestImports
import DiagnosticRepair.Proofs.Text.Cutting

namespace DiagnosticRepair

namespace LineEnding

variable {ending : LineEnding} {lines : List Text} {above rest out start : Text}

theorem split_flatMap_append (whole : ∀ line ∈ lines, ¬ ending.text <:+: line) (rest : Text) :
    ending.split (lines.flatMap (· ++ ending.text) ++ rest) = lines ++ ending.split rest := by
  induction lines with
  | nil => rfl
  | cons line lines ih =>
      obtain ⟨here, later⟩ := List.forall_mem_cons.1 whole
      rw [List.flatMap_cons, List.append_assoc, List.append_assoc, split_line_append here, ih later,
        List.cons_append]

theorem flatMap_split (ending : LineEnding) (text : Text) :
    (ending.split text).flatMap (· ++ ending.text) = text ++ ending.text := by
  rw [Text.flatMap_eq_join _ (ending.split_ne_nil text)]
  exact congrArg (· ++ ending.text) (ending.join_split text)

theorem whole_of_mem_split {line text : Text} (member : line ∈ ending.split text) :
    ¬ ending.text <:+: line :=
  Text.not_infix_of_mem_splitOn ending.text_ne_nil member

theorem prefix_split_iff (whole : ∀ line ∈ lines, ¬ ending.text <:+: line) :
    lines <+: ending.split out ↔
      lines.flatMap (· ++ ending.text) <+: out ++ ending.text := by
  constructor
  · rintro ⟨rest, split⟩
    refine ⟨rest.flatMap (· ++ ending.text), ?_⟩
    rw [← List.flatMap_append, split, flatMap_split]
  · rintro ⟨rest, split⟩
    have again := split_flatMap_append whole rest
    have ends : ending.split ((ending.split out).flatMap (· ++ ending.text) ++ []) =
        ending.split out ++ ending.split [] :=
      split_flatMap_append (fun _ => whole_of_mem_split) []
    rw [List.append_nil, flatMap_split, ← split, again] at ends
    have some_rest : 1 ≤ (ending.split rest).length :=
      List.length_pos_iff.2 (ending.split_ne_nil rest)
    have size := congrArg List.length ends
    have last : (ending.split []).length = 1 := rfl
    simp only [List.length_append, last] at size
    exact List.prefix_of_prefix_length_le ⟨_, ends⟩ (List.prefix_append ..) (by omega)

theorem starts_of_append (whole : ∀ line ∈ lines, ¬ ending.text <:+: line)
    (starts : ∀ line ∈ lines, start <+: line) (closed : above = [] ∨ ending.text <:+ above)
    (split : lines.flatMap (· ++ ending.text) = above ++ rest) (some_rest : rest ≠ []) :
    start <+: rest := by
  obtain ⟨inner, inner_whole, rfl⟩ : ∃ inner : List Text,
      (∀ line ∈ inner, ¬ ending.text <:+: line) ∧ above = inner.flatMap (· ++ ending.text) := by
    rcases closed with rfl | ⟨text, rfl⟩
    · exact ⟨[], by simp, rfl⟩
    · exact ⟨ending.split text, fun line => whole_of_mem_split, (flatMap_split ending text).symm⟩
  have cut := split_flatMap_append inner_whole rest
  rw [← split] at cut
  have lines_cut := split_flatMap_append whole []
  rw [List.append_nil, cut] at lines_cut
  have joined := ending.join_split rest
  cases pieces : ending.split rest with
  | nil => exact absurd pieces (ending.split_ne_nil rest)
  | cons first others =>
      have ahead : first <+: rest := Text.prefix_of_splitOn ending.text_ne_nil pieces
      have last : ending.split [] = [[]] := rfl
      rw [pieces, last] at lines_cut
      have alone : first :: others ≠ [[]] := by
        intro same
        rw [pieces, same] at joined
        exact some_rest joined.symm
      rcases List.append_eq_append_iff.1 lines_cut with ⟨more, lines_eq, tail⟩ | ⟨more, _, tail⟩
      · cases more with
        | nil => exact absurd (by simpa using tail) alone
        | cons line more =>
            obtain rfl := (List.cons.inj tail).1
            exact (starts first (by rw [lines_eq]; simp)).trans ahead
      · cases more with
        | nil => exact absurd (by simpa using tail.symm) alone
        | cons line more => simp at tail

end LineEnding

namespace TestImports

open LibraryImport (Inert)

variable {text out line : Text} {m : Nat} {index : List Text → Nat}

def heading (m : Nat) (text : Text) : List Text :=
  ((LineEnding.ofText text).split text).take m

def headingText (m : Nat) (text : Text) : Text :=
  (heading m text).flatMap (· ++ (LineEnding.ofText text).text)

def Begins (m : Nat) (text out : Text) : Prop :=
  heading m text <+: (LineEnding.ofText text).split out

def Directives (m : Nat) (text : Text) : Prop :=
  ∀ line ∈ heading m text, "///".toList <+: line

theorem whole_of_mem_heading (member : line ∈ heading m text) :
    ¬ (LineEnding.ofText text).text <:+: line :=
  LineEnding.whole_of_mem_split (List.mem_of_mem_take member)

theorem begins_iff :
    Begins m text out ↔ headingText m text <+: out ++ (LineEnding.ofText text).text :=
  LineEnding.prefix_split_iff fun _ => whole_of_mem_heading

/-- The first lines and their ends, or the text itself, which may end without one. -/
def Headed (m : Nat) (text out : Text) : Prop :=
  headingText m text <+: out ∨ out = text

theorem begins_of_headed (headed : Headed m text out) : Begins m text out := by
  rcases headed with starts | rfl
  · exact begins_iff.2 (starts.trans (List.prefix_append ..))
  · exact List.take_prefix ..

theorem suffix_ofText (headed : Headed m text out) (some_line : headingText m text ≠ []) :
    (LineEnding.ofText text).text <:+ (LineEnding.ofText out).text := by
  cases before : LineEnding.ofText text with
  | lf =>
      cases LineEnding.ofText out with
      | lf => exact List.suffix_rfl
      | crlf => exact List.suffix_append ['\r'] ['\n']
  | crlf =>
      have found : LineEnding.ofText out = .crlf := by
        rcases headed with starts | rfl
        · have ends := (Text.flatMap_ends _ (heading m text)).resolve_left some_line
          have inside := ends.isInfix.trans starts.isInfix
          rw [before] at inside
          exact if_pos (Text.occursIn_iff_infix.2 inside)
        · exact before
      exact found ▸ List.suffix_rfl

theorem directive_behind {lines : List Text} {rest : Text} (directives : Directives m text)
    (headed : Headed m text out)
    (own : headingText m text = lines.flatMap (· ++ (LineEnding.ofText out).text) ++ rest)
    (some_rest : rest ≠ []) : "///".toList <+: rest := by
  have some_line : headingText m text ≠ [] := by simp [own, some_rest]
  have closed : lines.flatMap (· ++ (LineEnding.ofText out).text) = [] ∨
      (LineEnding.ofText text).text <:+ lines.flatMap (· ++ (LineEnding.ofText out).text) :=
    (Text.flatMap_ends _ _).imp_right (suffix_ofText headed some_line).trans
  exact LineEnding.starts_of_append (fun _ => whole_of_mem_heading) directives closed own some_rest

theorem exists_directive_below (directives : Directives m text) (headed : Headed m text out)
    (between : ¬ headingText m text <+: linesAbove out index) :
    ∃ rest, headingText m text = linesAbove out index ++ rest ∧ "///".toList <+: rest ∧
      out = linesAbove out index ++ linesBelow out index ∧
      rest <+: linesBelow out index ++ (LineEnding.ofText text).text := by
  have begins := begins_iff.1 (begins_of_headed headed)
  rcases insertLine_cases out [] index with ⟨split, _⟩ | ⟨all, _, _⟩
  · have above : linesAbove out index <+: out ++ (LineEnding.ofText text).text := by
      refine List.IsPrefix.trans ?_ (List.prefix_append ..)
      exact ⟨_, split.symm⟩
    obtain ⟨rest, own⟩ := (List.prefix_or_prefix_of_prefix begins above).resolve_left between
    have some_rest : rest ≠ [] := by
      rintro rfl
      rw [List.append_nil] at own
      exact between (own ▸ List.prefix_rfl)
    have starts := directive_behind directives headed own.symm some_rest
    have joined : out ++ (LineEnding.ofText text).text = linesAbove out index ++
        (linesBelow out index ++ (LineEnding.ofText text).text) := by
      rw [← List.append_assoc, ← split]
    rw [← own, joined] at begins
    exact ⟨rest, own.symm, starts, split, (List.prefix_append_right_inj _).1 begins⟩
  · -- a line at the end stands below all lines
    refine absurd ?_ between
    rw [all]
    rcases headed with starts | rfl
    · exact starts.trans (List.prefix_append ..)
    · exact begins

theorem prefix_of_ended {start : Text} (plain : start.OneLine) (ending : LineEnding)
    (line rest : Text) (starts : start <+: line ++ (ending.text ++ rest)) : start <+: line := by
  obtain ⟨c, ends, text, absent⟩ : ∃ c ends, ending.text = c :: ends ∧ c ∉ start := by
    cases ending with
    | lf => exact ⟨'\n', [], rfl, fun member => (plain _ member).2 rfl⟩
    | crlf => exact ⟨'\r', ['\n'], rfl, fun member => (plain _ member).1 rfl⟩
  rw [text, List.cons_append, ← List.isPrefixOf_iff_prefix,
    Text.isPrefixOf_append_of_not_mem absent] at starts
  exact List.isPrefixOf_iff_prefix.1 starts

theorem exists_line_below {start : Text} (plain : start.OneLine) (some_start : start ≠ [])
    (ending : LineEnding) (starts : start <+: linesBelow out index ++ ending.text) :
    ∃ line rest, ((LineEnding.ofText out).split out).drop
      (index ((LineEnding.ofText out).split out)) = line :: rest ∧ start <+: line := by
  have below : linesBelow out index = Text.join (LineEnding.ofText out).text
    (((LineEnding.ofText out).split out).drop (index ((LineEnding.ofText out).split out))) := rfl
  rw [below] at starts
  cases lines : ((LineEnding.ofText out).split out).drop
      (index ((LineEnding.ofText out).split out)) with
  | nil =>
      rw [lines] at starts
      rw [show Text.join (LineEnding.ofText out).text [] = [] from rfl] at starts
      have empty := prefix_of_ended plain ending [] [] (by simpa using starts)
      exact absurd (List.prefix_nil.1 empty) some_start
  | cons line rest =>
      refine ⟨line, rest, rfl, ?_⟩
      rw [lines] at starts
      cases rest with
      | nil =>
          rw [Text.join_singleton] at starts
          exact prefix_of_ended plain ending line [] (by simpa using starts)
      | cons next rest =>
          rw [Text.join_cons_cons, List.append_assoc, List.append_assoc] at starts
          exact prefix_of_ended plain _ line _ starts

theorem headed_insertLine (above : headingText m text <+: linesAbove out index) (line : Text) :
    Headed m text (insertLine out line index) := by
  left
  rcases insertLine_cases out line index with ⟨_, inserted⟩ | ⟨all, _, inserted⟩
  · rw [inserted]
    exact above.trans (List.prefix_append ..)
  · rw [inserted, ← List.append_assoc, ← all]
    exact above.trans (List.prefix_append ..)

theorem not_begins_insertLine (directives : Directives m text) (headed : Headed m text out)
    (between : ¬ headingText m text <+: linesAbove out index) (inert : Inert line) :
    ¬ Begins m text (insertLine out line index) := by
  obtain ⟨rest, own, starts, split, _⟩ := exists_directive_below directives headed between
  obtain ⟨tail, rfl⟩ := inert.starts
  rcases insertLine_cases out _ index with ⟨_, inserted⟩ | ⟨all, _, _⟩
  · intro begins
    rw [begins_iff, inserted, own, List.append_assoc, List.prefix_append_right_inj] at begins
    have first := (List.cons_prefix_cons.1 (starts.trans begins)).1
    exact absurd first (by decide)
  · have size := congrArg List.length split
    rw [all] at size
    have some_end := List.length_pos_iff.2 (LineEnding.ofText out).text_ne_nil
    simp only [List.length_append] at size
    omega

theorem begins_insertLine_iff (directives : Directives m text) (headed : Headed m text out)
    (inert : Inert line) :
    Begins m text (insertLine out line index) ↔ headingText m text <+: linesAbove out index := by
  constructor
  · exact fun begins => Classical.byContradiction fun between =>
      not_begins_insertLine directives headed between inert begins
  · exact fun above => begins_of_headed (headed_insertLine above line)

theorem prefix_linesAbove_directiveCount (directives : Directives m text)
    (headed : Headed m text out) : headingText m text <+: linesAbove out directiveCount := by
  refine Classical.byContradiction fun between => ?_
  obtain ⟨rest, _, starts, _, below⟩ := exists_directive_below directives headed between
  obtain ⟨line, lines, split, starts⟩ :=
    exists_line_below (by decide) (by decide) _ (starts.trans below)
  generalize (LineEnding.ofText out).split out = all at split
  have passed := List.takeWhile_append_dropWhile (p := ("///".toList.isPrefixOf ·)) (l := all)
  have stops := List.head?_dropWhile_not ("///".toList.isPrefixOf ·) all
  have behind : all.drop (directiveCount all) = all.dropWhile ("///".toList.isPrefixOf ·) := by
    have cut := congrArg (List.drop (directiveCount all)) passed
    exact cut.symm.trans List.drop_left
  rw [← behind, split] at stops
  have stops : "///".toList.isPrefixOf line = false := stops
  rw [List.isPrefixOf_iff_prefix.2 starts] at stops
  cases stops

theorem prefix_linesAbove_endIndex_iff (directives : Directives m text)
    (headed : Headed m text out) (some_line : headingText m text ≠ []) :
    headingText m text <+: linesAbove out ImportBlock.endIndex ↔
      ∃ line ∈ (LineEnding.ofText out).split out, ImportBlock.Starts line := by
  have ends := ImportBlock.endIndex_eq_iff.1
    (rfl : ImportBlock.endIndex ((LineEnding.ofText out).split out) = _)
  constructor
  · intro above
    refine Classical.byContradiction fun none_starts => ?_
    have zero := ends.eq_zero_iff.2 fun line member starts => none_starts ⟨line, member, starts⟩
    have empty : linesAbove out ImportBlock.endIndex = [] := by
      unfold linesAbove
      simp only
      rw [zero]
      rfl
    rw [empty] at above
    exact some_line (List.prefix_nil.1 above)
  · rintro ⟨line, member, starts⟩
    refine Classical.byContradiction fun between => ?_
    obtain ⟨rest, own, _⟩ := exists_directive_below directives headed between
    obtain ⟨above, run, cut, _, runs⟩ :=
      ends.run fun zero => ends.eq_zero_iff.1 zero line member starts
    obtain ⟨first, more, rfl, ⟨name, rfl⟩⟩ := runs.exists_cons
    -- the first import would start where a directive does
    have split : headingText m text =
        above.flatMap (· ++ (LineEnding.ofText out).text) ++
          (("import ".toList ++ name ++ (LineEnding.ofText out).text) ++
            more.flatMap (· ++ (LineEnding.ofText out).text) ++ rest) := by
      rw [own]
      unfold linesAbove
      simp only
      rw [cut, List.flatMap_append, List.flatMap_cons]
      simp only [List.append_assoc]
    have starts := directive_behind directives headed split (by simp)
    have first := (List.cons_prefix_cons.1 starts).1
    exact absurd first (by decide)

open LibraryImport (IsName Opens addIfUsed find? keptNames)

variable {symbol usage above below : Text} {found : LibraryImport}

/-- The first lines end in the names of the first import, or below them, and these start otherwise
once they are trimmed for widening. -/
def Trims (m : Nat) (text symbol usage out : Text) : Prop :=
  addIfUsed symbol usage out ≠ none ∧ ∃ found rest, find? out = some found ∧
    headingText m text = found.before ++ found.opening ++ rest ∧
    ¬ rest <+: ' ' :: keptNames found.names

def OpensNone (m : Nat) (text : Text) : Prop :=
  ∀ front opening rest, headingText m text = front ++ (opening ++ rest) → ¬ Opens opening

theorem not_trims (none : OpensNone m text) (symbol usage out : Text) :
    ¬ Trims m text symbol usage out := by
  rintro ⟨_, found, rest, first, own, _⟩
  refine none found.before found.opening rest (by rw [own, List.append_assoc]) ?_
  exact (LibraryImport.find?_eq_some_iff.1 first).1.opens

theorem opensNone_of_not_mem (absent : openBrace ∉ headingText m text) : OpensNone m text := by
  intro front opening rest split opens
  obtain ⟨line, rfl⟩ := LibraryImport.exists_opening opens
  exact absent (by simp [split])

theorem prefix_kept_of_prefix_widened {rest : Text} (name : IsName symbol)
    (closes : closeBrace ∉ found.names)
    (absent : symbol ∉ LibraryImport.bindings found.names) (ends : rest.getLast? = some '\n')
    (old : rest <+: found.names ++ closeBrace :: above)
    (new : rest <+: (found.widen symbol).names ++ closeBrace :: below) :
    rest <+: ' ' :: keptNames found.names := by
  have closes' := LibraryImport.closeBrace_not_mem_widen name closes
  obtain ⟨added, marks, widened⟩ := LibraryImport.exists_added symbol found
  have unbroken : '\n' ∉ added := by
    intro member
    rcases marks _ member with inside | comma | space
    · exact absurd (name.visible _ inside) (by decide)
    · exact absurd comma (by decide)
    · exact absurd space (by decide)
  rcases LibraryImport.exists_names rest with none | ⟨names, tail, none, rfl⟩
  · rw [← List.isPrefixOf_iff_prefix, Text.isPrefixOf_append_of_not_mem none,
      List.isPrefixOf_iff_prefix, widened, ← List.cons_append] at new
    rcases List.prefix_or_prefix_of_prefix new (List.prefix_append ..) with ahead | ⟨more, rfl⟩
    · exact ahead
    · rw [List.prefix_append_right_inj] at new
      cases last : more.getLast? with
      | none =>
          exact ⟨[], by simp [List.getLast?_eq_none_iff.1 last]⟩
      | some c =>
          rw [List.getLast?_append, last] at ends
          obtain rfl : c = '\n' := Option.some.inj ends
          exact absurd (new.subset (List.mem_of_getLast? last)) unbroken
  · -- both lists of names would be the same one
    obtain ⟨after, old⟩ := old
    obtain ⟨after', new⟩ := new
    rw [List.append_assoc, List.cons_append] at old new
    obtain ⟨same, _⟩ := LibraryImport.names_unique none closes old
    obtain ⟨same', _⟩ := LibraryImport.names_unique none closes' new
    refine absurd ?_ absent
    rw [← same, same', LibraryImport.mem_bindings_widen name]
    exact .inr rfl

theorem getLast?_of_headingText {rest : Text} (split : headingText m text = above ++ rest)
    (some_rest : rest ≠ []) : rest.getLast? = some '\n' := by
  have closed : LibraryImport.Closed (headingText m text) := closed_flatMap ..
  rw [split] at closed
  exact (closed_of_append closed).resolve_left some_rest

theorem prefix_widen (headed : Headed m text out) (first : find? out = some found)
    (kept : ∀ rest, headingText m text = found.before ++ found.opening ++ rest →
      rest <+: ' ' :: keptNames found.names) (symbol : Text) :
    headingText m text <+: (found.widen symbol).text := by
  have begins := begins_iff.1 (begins_of_headed headed)
  obtain ⟨added, _, widened⟩ := LibraryImport.exists_added symbol found
  have head : found.before ++ found.opening <+: out ++ (LineEnding.ofText text).text := by
    rw [(LibraryImport.find?_eq_some_iff.1 first).1.cut, LibraryImport.text]
    simp only [List.append_assoc, List.prefix_append_right_inj, List.prefix_append]
  have split : (found.widen symbol).text = found.before ++ found.opening ++
      (' ' :: keptNames found.names ++ (added ++ (found.closing ++ found.after))) := by
    rw [LibraryImport.text, widened]
    simp [LibraryImport.widen]
  rw [split]
  rcases List.prefix_or_prefix_of_prefix begins head with above | ⟨rest, own⟩
  · exact above.trans (List.prefix_append ..)
  · rw [← own, List.prefix_append_right_inj]
    exact (kept rest own.symm).trans (List.prefix_append ..)

theorem kept_of_begins_widen (headed : Headed m text out) (first : find? out = some found)
    (absent : symbol ∉ LibraryImport.bindings found.names) (name : IsName symbol)
    (begins : Begins m text (found.widen symbol).text) (rest : Text)
    (own : headingText m text = found.before ++ found.opening ++ rest) :
    rest <+: ' ' :: keptNames found.names := by
  have stands := (LibraryImport.find?_eq_some_iff.1 first).1
  obtain ⟨reach, _, closing⟩ := stands.closes
  have old := begins_iff.1 (begins_of_headed headed)
  rw [stands.cut, LibraryImport.text, own, closing] at old
  simp only [List.append_assoc, List.prefix_append_right_inj, List.cons_append] at old
  have new := begins_iff.1 begins
  rw [LibraryImport.text, own, show (found.widen symbol).closing = closeBrace :: reach from closing]
    at new
  simp only [LibraryImport.widen, List.append_assoc, List.prefix_append_right_inj,
    List.cons_append] at new
  by_cases empty : rest = []
  · rw [empty]
    exact List.nil_prefix
  · exact prefix_kept_of_prefix_widened name stands.names absent (getLast?_of_headingText own empty)
      old (by simpa [LibraryImport.widen] using new)

theorem begins_addIfUsed_iff (headed : Headed m text out) (name : IsName symbol) (usage : Text) :
    (Begins m text ((addIfUsed symbol usage out).getD out) ↔ ¬ Trims m text symbol usage out) ∧
    (¬ Trims m text symbol usage out → Headed m text ((addIfUsed symbol usage out).getD out)) := by
  cases added : addIfUsed symbol usage out with
  | none =>
      have calm : ¬ Trims m text symbol usage out := fun trims => trims.1 added
      exact ⟨iff_of_true (begins_of_headed headed) calm, fun _ => headed⟩
  | some mended =>
      obtain ⟨found, first, absent, _, rfl⟩ := LibraryImport.addIfUsed_eq_some_iff.1 added
      have kept_of_calm : ¬ Trims m text symbol usage out → ∀ rest,
          headingText m text = found.before ++ found.opening ++ rest →
            rest <+: ' ' :: keptNames found.names := fun calm rest own =>
        Classical.byContradiction fun trimmed =>
          calm ⟨by simp [added], found, rest, first, own, trimmed⟩
      have headed_of_calm : ¬ Trims m text symbol usage out →
          Headed m text (found.widen symbol).text := fun calm =>
        .inl (prefix_widen headed first (kept_of_calm calm) symbol)
      refine ⟨⟨?_, fun calm => begins_of_headed (headed_of_calm calm)⟩, headed_of_calm⟩
      rintro begins ⟨_, found', rest, first', own, trimmed⟩
      rw [first] at first'
      obtain rfl := Option.some.inj first'
      exact trimmed (kept_of_begins_widen headed first absent name begins rest own)

/-- The line for the matchers goes to the top, above the directives. -/
def PutAbove (m : Nat) (text : Text) : Prop :=
  0 < m ∧ addMatchers (buffer 3 text) ≠ none ∧
    ∀ line ∈ (LineEnding.ofText (buffer 3 text)).split (buffer 3 text), ¬ ImportBlock.Starts line

theorem headingText_eq_nil_iff : headingText m text = [] ↔ m = 0 := by
  constructor
  · intro none
    cases m with
    | zero => rfl
    | succ m =>
        unfold headingText heading at none
        cases lines : (LineEnding.ofText text).split text with
        | nil => exact absurd lines (LineEnding.split_ne_nil _ _)
        | cons line rest =>
            rw [lines, List.take_succ_cons, List.flatMap_cons, List.append_eq_nil_iff,
              List.append_eq_nil_iff] at none
            exact absurd none.1.2 (LineEnding.text_ne_nil _)
  · rintro rfl
    rfl

theorem headed_buffer_three (directives : Directives m text)
    (headed : Headed m text (buffer 2 text)) : Headed m text (buffer 3 text) := by
  rw [buffer_three]
  cases inserted : addReact (buffer 2 text) with
  | none => exact headed
  | some mended =>
      rw [Option.getD_some, eq_of_addReact inserted]
      exact headed_insertLine (prefix_linesAbove_directiveCount directives headed) _

theorem begins_fix_iff (directives : Directives m text) (headed : Headed m text (buffer 3 text)) :
    Begins m text (fix text).1 ↔ ¬ PutAbove m text := by
  rw [fix_fst]
  cases inserted : addMatchers (buffer 3 text) with
  | none => exact iff_of_true (begins_of_headed headed) fun above => above.2.1 inserted
  | some mended =>
      rw [Option.getD_some, eq_of_addMatchers inserted,
        begins_insertLine_iff directives headed inert_matcherImport]
      by_cases zero : m = 0
      · rw [headingText_eq_nil_iff.2 zero]
        exact iff_of_true List.nil_prefix fun above => by
          rw [zero] at above
          exact absurd above.1 (Nat.lt_irrefl 0)
      · rw [prefix_linesAbove_endIndex_iff directives headed (mt headingText_eq_nil_iff.1 zero)]
        constructor
        · rintro ⟨line, member, starts⟩ above
          exact above.2.2 line member starts
        · intro calm
          refine Classical.byContradiction fun none => calm ⟨Nat.pos_of_ne_zero zero, ?_, ?_⟩
          · simp [inserted]
          · exact fun line member starts => none ⟨line, member, starts⟩

theorem buffer_of_le {n : Nat} (all : 4 ≤ n) (text : Text) : buffer n text = (fix text).1 := by
  unfold buffer
  rw [List.take_of_length_le all]
  rfl

theorem directives_stay_iff (directives : Directives m text) :
    ((∀ n, Begins m text (buffer n text)) ↔
      ¬ Trims m text "screen" "screen." text ∧ ¬ Trims m text "render" "render(" (buffer 1 text) ∧
        ¬ PutAbove m text) ∧
    (¬ Trims m text "screen" "screen." text → ¬ Trims m text "render" "render(" (buffer 1 text) →
      (Begins m text (fix text).1 ↔ ¬ PutAbove m text)) ∧
    (OpensNone m text → (Begins m text (fix text).1 ↔ ¬ PutAbove m text)) := by
  have headed_zero : Headed m text text := .inr rfl
  obtain ⟨screen, headed_one⟩ :=
    begins_addIfUsed_iff headed_zero LibraryImport.isName_screen "screen."
  rw [← buffer_one] at screen headed_one
  have render (calm : ¬ Trims m text "screen" "screen." text) :=
    begins_addIfUsed_iff (headed_one calm) LibraryImport.isName_render "render("
  rw [← buffer_two] at render
  have last (calm : ¬ Trims m text "screen" "screen." text)
      (calm' : ¬ Trims m text "render" "render(" (buffer 1 text)) :
      Headed m text (buffer 3 text) :=
    headed_buffer_three directives ((render calm).2 calm')
  refine ⟨⟨fun begins => ?_, ?_⟩, fun calm calm' => begins_fix_iff directives (last calm calm'),
    fun none => begins_fix_iff directives (last (not_trims none _ _ _) (not_trims none _ _ _))⟩
  · have calm := screen.1 (begins 1)
    have calm' := (render calm).1.1 (begins 2)
    exact ⟨calm, calm', (begins_fix_iff directives (last calm calm')).1 (begins 4)⟩
  · rintro ⟨calm, calm', free⟩ n
    match n with
    | 0 => exact begins_of_headed headed_zero
    | 1 => exact screen.2 calm
    | 2 => exact (render calm).1.2 calm'
    | 3 => exact begins_of_headed (last calm calm')
    | n + 4 =>
        rw [buffer_of_le (by omega)]
        exact (begins_fix_iff directives (last calm calm')).2 free

def directiveImport : Text :=
  Text.join ['\n'] ["/// <reference types='node' />",
    "import \x7b render \x7d from '@testing-library/react';", "render(<App />);",
    "expect(screen.title).toBeVisible();", ""]

theorem directives_stay_iff_directiveImport : Directives 1 directiveImport ∧
    OpensNone 1 directiveImport ∧ (fix directiveImport).2.length = 3 ∧
    (∀ n, Begins 1 directiveImport (buffer n directiveImport)) ∧
    Begins 1 directiveImport (fix directiveImport).1 := by
  have directives : Directives 1 directiveImport := by
    unfold Directives
    decide +kernel
  have none_open : OpensNone 1 directiveImport := opensNone_of_not_mem (by decide +kernel)
  have imports : ((LineEnding.ofText (buffer 3 directiveImport)).split
      (buffer 3 directiveImport)).any ImportBlock.startsImport = true := by decide +kernel
  have free : ¬ PutAbove 1 directiveImport := by
    obtain ⟨line, member, starts⟩ := List.any_eq_true.1 imports
    exact fun above => above.2.2 line member (ImportBlock.startsImport_iff.1 starts)
  obtain ⟨all, _, apart⟩ := directives_stay_iff directives
  have calm := not_trims none_open "screen" "screen." directiveImport
  have calm' := not_trims none_open "render" "render(" (buffer 1 directiveImport)
  exact ⟨directives, none_open, by decide +kernel, all.2 ⟨calm, calm', free⟩,
    (apart none_open).2 free⟩

def directiveAlone : Text :=
  Text.join ['\n'] ["/// <amd-module name='login' />", "expect(a).toBeVisible();", ""]

theorem directiveAlone_moved : Directives 1 directiveAlone ∧
    LibraryImport.find? directiveAlone = none ∧
    (fix directiveAlone).1 = "import '@testing-library/jest-dom';\n".toList ++ directiveAlone ∧
    ¬ Begins 1 directiveAlone (fix directiveAlone).1 := by
  have absent : LibraryImport.find? directiveAlone = none := by decide +kernel
  have moved : (fix directiveAlone).1 =
      "import '@testing-library/jest-dom';\n".toList ++ directiveAlone := by decide +kernel
  unfold Directives Begins
  refine ⟨by decide +kernel, absent, moved, ?_⟩
  rw [moved]
  decide +kernel

end TestImports

end DiagnosticRepair
