import DiagnosticRepair.Proofs.Source.Widening

namespace DiagnosticRepair.LibraryImport

variable {text line ending ending' above below before after clause opening usage symbol : Text}
  {found other : LibraryImport}

structure Inert (line : Text) : Prop where
  opens : openBrace ∉ line
  closes : closeBrace ∉ line
  starts : ∃ rest, line = 'i' :: 'm' :: rest
  ends : line.getLast? = some ';'
  unbroken : '\n' ∉ line
  source : cutSource? line = none

def Breaks (ending : Text) : Prop :=
  ∀ c ∈ ending, c = '\r' ∨ c = '\n'

def Closed (above : Text) : Prop :=
  above = [] ∨ above.getLast? = some '\n'

theorem Breaks.apart {c : Char} (h : Breaks ending) (noReturn : c ≠ '\r') (noFeed : c ≠ '\n') :
    c ∉ ending :=
  fun member => (h c member).elim noReturn noFeed

theorem quote_ne {mark c : Char} (quote : isQuote mark = true) (h : isQuote c = false) : mark ≠ c := by
  rintro rfl
  rw [quote] at h
  cases h

theorem source_ne (h : IsSource clause) (before rest : Text) :
    clause ≠ before ++ 'i' :: 'm' :: rest := by
  obtain ⟨blanks, opened, closed, blank, quote, quote', rfl⟩ := h
  have once : 'm' ∉ blanks ++ opened :: (Conventions.testingLibrary ++ [closed]) := by
    simp only [List.mem_append, List.mem_cons, List.not_mem_nil, or_false, not_or]
    exact ⟨fun member => absurd (List.all_eq_true.1 blank _ member) (by decide),
      (quote_ne quote (by decide)).symm, by decide, (quote_ne quote' (by decide)).symm⟩
  intro split
  rcases before with _ | ⟨a, _ | ⟨b, _ | ⟨c, _ | ⟨d, before⟩⟩⟩⟩
  · exact absurd (List.cons.inj split).1 (by decide)
  · exact absurd (List.cons.inj (List.cons.inj split).2).1 (by decide)
  · exact absurd (List.cons.inj (List.cons.inj (List.cons.inj split).2).2).1 (by decide)
  · exact absurd (List.cons.inj (List.cons.inj (List.cons.inj (List.cons.inj split).2).2).2).1
      (by decide)
  · have tail : blanks ++ opened :: (Conventions.testingLibrary ++ [closed]) =
        before ++ 'i' :: 'm' :: rest :=
      (List.cons.inj (List.cons.inj (List.cons.inj (List.cons.inj split).2).2).2).2
    exact once (tail ▸ (by simp : 'm' ∈ before ++ 'i' :: 'm' :: rest))

theorem Inert.noSource (h : Inert line) (source : IsSource clause) (before after : Text) :
    line ≠ before ++ (clause ++ after) := by
  intro split
  have unbroken : '\n' ∉ before := fun member => h.unbroken (by simp [split, member])
  have reaches : ReachesSource (before ++ clause) := ⟨before, clause, unbroken, source, rfl⟩
  obtain ⟨cut, found⟩ := exists_cutSource? reaches (split.trans (List.append_assoc ..).symm)
  rw [h.source] at found
  cases found

theorem Inert.exists_ends (h : Inert line) {c : Char} (apart : c ≠ ';') {tail : Text}
    (split : line = before ++ c :: tail) : ∃ tail', tail = tail' ++ [';'] := by
  have ends := h.ends
  rcases List.eq_nil_or_concat tail with rfl | ⟨tail, d, rfl⟩
  · rw [split, List.getLast?_concat] at ends
    exact absurd (Option.some.inj ends) apart
  · rw [List.concat_eq_append] at *
    rw [split, ← List.cons_append, ← List.append_assoc, List.getLast?_concat] at ends
    exact ⟨tail, by rw [Option.some.inj ends]⟩

theorem source_ends_above {last : Text} (inert : Inert line) (breaks : Breaks ending)
    (source : IsSource (before ++ last)) (some_last : last ≠ [])
    (split : ending ++ (line ++ ending') ++ below = last ++ after) : False := by
  obtain ⟨mark, quote, ends⟩ := getLast?_source source
  have ends : last.getLast? = some mark := by
    rw [List.getLast?_append] at ends
    cases own : last.getLast? with
    | none => exact absurd (List.getLast?_eq_none_iff.1 own) some_last
    | some d => simpa [own] using ends
  obtain ⟨front, rfl⟩ := List.getLast?_eq_some_iff.1 ends
  have apart : mark ∉ ending :=
    breaks.apart (quote_ne quote (by decide)) (quote_ne quote (by decide))
  rw [List.append_assoc, List.append_assoc front, List.singleton_append] at split
  obtain ⟨between, rfl, reached⟩ := Text.exists_beyond apart split.symm
  obtain ⟨rest, rfl⟩ := inert.starts
  rcases between with _ | ⟨c, _ | ⟨d, between⟩⟩
  · exact quote_ne quote (by decide) (List.cons.inj reached).1.symm
  · exact quote_ne quote (by decide) (List.cons.inj (List.cons.inj reached).2).1.symm
  · obtain rfl := (List.cons.inj reached).1
    obtain rfl := (List.cons.inj (List.cons.inj reached).2).1
    exact source_ne source (before ++ ending) (between ++ [mark]) (by simp)

theorem source_begins_elsewhere {last : Text} (inert : Inert line) (breaks : Breaks ending)
    (breaks' : Breaks ending') (source : IsSource clause) (some_last : last ≠ [])
    (within : ending ++ (line ++ ending') = before ++ last)
    (split : last ++ below = clause ++ after) : False := by
  obtain ⟨word, rfl, _⟩ := source_starts source
  cases last with
  | nil => exact some_last rfl
  | cons c last =>
      obtain rfl : c = 'f' := (List.cons.inj split).1
      obtain ⟨front, rfl, inside⟩ :=
        Text.exists_beyond (breaks.apart (by decide) (by decide)) within.symm
      obtain ⟨tail, line_eq, rfl⟩ :=
        Text.exists_within (breaks'.apart (by decide) (by decide)) inside.symm
      obtain ⟨tail, rfl⟩ := inert.exists_ends (by decide) line_eq
      have apart := source_apart source (c := ';') (by decide) (by decide)
      have split : 'f' :: tail ++ ';' :: (ending' ++ below) = 'f' :: word ++ after := by
        rw [← split]
        simp
      obtain ⟨between, tail_eq, _⟩ := Text.exists_beyond apart split
      refine inert.noSource source front (between ++ [';']) ?_
      rw [line_eq, ← List.cons_append, tail_eq]
      simp

theorem source_above_or_below (inert : Inert line) (breaks : Breaks ending)
    (breaks' : Breaks ending') (source : IsSource clause)
    (split : above ++ (ending ++ (line ++ ending') ++ below) = before ++ (clause ++ after)) :
    (∃ rest, above = before ++ (clause ++ rest)) ∨
      ∃ rest, before = above ++ (ending ++ (line ++ ending') ++ rest) := by
  rcases List.append_eq_append_iff.1 split with ⟨between, rfl, behind⟩ | ⟨between, rfl, behind⟩
  · rcases List.append_eq_append_iff.1 behind with ⟨rest, rfl, _⟩ | ⟨last, within, split'⟩
    · exact .inr ⟨rest, rfl⟩
    · by_cases empty : last = []
      · subst empty
        rw [List.append_nil] at within
        exact .inr ⟨[], by rw [within, List.append_nil]⟩
      · exact (source_begins_elsewhere inert breaks breaks' source empty within split'.symm).elim
  · rcases List.append_eq_append_iff.1 behind with ⟨rest, rfl, _⟩ | ⟨last, rfl, split'⟩
    · exact .inl ⟨rest, rfl⟩
    · by_cases empty : last = []
      · subst empty
        exact .inl ⟨[], by simp⟩
      · exact (source_ends_above inert breaks source empty split').elim

theorem opening_begins_elsewhere {last : Text} (inert : Inert line) (breaks : Breaks ending)
    (feed : '\n' ∈ ending) (opens : Opens opening) (some_last : last ≠ [])
    (within : line ++ ending = before ++ last) (split : last ++ below = opening ++ after) : False := by
  obtain ⟨blanks, own, _, blank, _, unbroken, _, rfl⟩ := opens
  cases last with
  | nil => exact some_last rfl
  | cons c last =>
      obtain rfl : c = 'i' := (List.cons.inj split).1
      obtain ⟨tail, line_eq, rfl⟩ :=
        Text.exists_within (breaks.apart (by decide) (by decide)) within.symm
      obtain ⟨tail, rfl⟩ := inert.exists_ends (by decide) line_eq
      have keyword : ';' ∉ "import".toList ++ blanks := by
        rw [List.mem_append, not_or]
        exact ⟨by decide, fun member => absurd (List.all_eq_true.1 blank _ member) (by decide)⟩
      have split : 'i' :: tail ++ ';' :: (ending ++ below) =
          "import".toList ++ blanks ++ (own ++ openBrace :: after) := by
        have := split
        simp only [List.append_assoc, List.cons_append, List.nil_append] at this ⊢
        exact this
      obtain ⟨between, tail_eq, reached⟩ := Text.exists_beyond keyword split
      have closed : openBrace ∉ between ++ ';' :: ending := by
        have none := inert.opens
        rw [line_eq, ← List.cons_append, tail_eq] at none
        simp only [List.mem_append, List.mem_cons, List.not_mem_nil, or_false, not_or] at none ⊢
        exact ⟨none.2.1.2, none.2.2, breaks.apart (by decide) (by decide)⟩
      have reached : own ++ openBrace :: after = between ++ ';' :: ending ++ below := by
        rw [reached]
        simp
      obtain ⟨_, own_eq, _⟩ := Text.exists_beyond closed reached
      exact unbroken (by simp [own_eq, feed])

theorem opening_ends_above (inert : Inert line) (feed : '\n' ∈ ending) (some_before : before ≠ [])
    (opens : Opens (before ++ (line ++ ending ++ after))) : False := by
  obtain ⟨blanks, own, _, blank, _, unbroken, _, split⟩ := opens
  obtain ⟨rest, rfl⟩ := inert.starts
  cases before with
  | nil => exact some_before rfl
  | cons c before =>
      have keyword : 'i' ∉ "mport".toList ++ blanks := by
        rw [List.mem_append, not_or]
        exact ⟨by decide, fun member => absurd (List.all_eq_true.1 blank _ member) (by decide)⟩
      have split : before ++ 'i' :: ('m' :: rest ++ ending ++ after) =
          "mport".toList ++ blanks ++ (own ++ [openBrace]) := by
        rw [show "import".toList = 'i' :: "mport".toList from rfl] at split
        have := (List.cons.inj split).2
        simp only [List.append_assoc, List.cons_append, List.append_eq] at this ⊢
        exact this
      obtain ⟨between, _, reached⟩ := Text.exists_beyond keyword split
      have member : '\n' ∈ own ++ [openBrace] := by simp [reached, feed]
      rcases List.mem_append.1 member with inside | brace
      · exact unbroken inside
      · exact absurd brace (by decide)

inductive Placed (above line below : Text) (found : LibraryImport) : Prop
  | over (rest : Text)
      (cut : above = found.before ++ (found.opening ++ (found.names ++ (found.closing ++ rest))))
      (after : found.after = rest ++ (line ++ below))
  | around (first second : Text) (cut : above = found.before ++ (found.opening ++ first))
      (names : found.names = first ++ (line ++ second))
      (behind : below = second ++ (found.closing ++ found.after))
  | under (rest : Text) (before : found.before = above ++ (line ++ rest))
      (cut : below = rest ++ (found.opening ++ (found.names ++ (found.closing ++ found.after))))

theorem closing_above {first closing : Text} (inert : Inert line) (breaks : Breaks ending)
    (feed : '\n' ∈ ending) (closes : Closes closing)
    (split : first ++ (line ++ ending ++ below) = closing ++ after) :
    ∃ rest, first = closing ++ rest ∧ after = rest ++ (line ++ ending ++ below) := by
  obtain ⟨_, ⟨own, clause, unbroken, source, rfl⟩, rfl⟩ := closes
  have none_first : Breaks [] := fun _ member => by cases member
  have cut : first ++ ([] ++ (line ++ ending) ++ below) = closeBrace :: own ++ (clause ++ after) := by
    simpa using split
  rcases source_above_or_below inert none_first breaks source cut with ⟨rest, rfl⟩ | ⟨rest, within⟩
  · refine ⟨rest, by simp, ?_⟩
    simp only [List.cons_append, List.append_assoc, List.cons.injEq, List.append_cancel_left_eq] at split
    exact (by simpa using split : rest ++ (line ++ ending ++ below) = after).symm
  · have member : '\n' ∈ closeBrace :: own := by simp [within, feed]
    rcases List.mem_cons.1 member with brace | inside
    · exact absurd brace (by decide)
    · exact absurd inside unbroken

theorem placed_of_opening_above {first : Text} (inert : Inert line) (breaks : Breaks ending)
    (feed : '\n' ∈ ending) (closes : Closes found.closing)
    (cut : above = found.before ++ (found.opening ++ first))
    (split : first ++ (line ++ ending ++ below) =
      found.names ++ (found.closing ++ found.after)) :
    Placed above (line ++ ending) below found := by
  rcases List.append_eq_append_iff.1 split with ⟨second, names, behind⟩ | ⟨rest, first_eq, behind⟩
  · have unclosed : closeBrace ∉ line ++ ending := by
      rw [List.mem_append, not_or]
      exact ⟨inert.closes, breaks.apart (by decide) (by decide)⟩
    obtain ⟨reach, _, closing⟩ := closes
    rw [closing, List.cons_append] at behind
    obtain ⟨between, rfl, below_eq⟩ := Text.exists_beyond unclosed behind.symm
    refine .around first between cut names ?_
    rw [below_eq, closing, List.cons_append]
  · obtain ⟨tail, rfl, after⟩ := closing_above inert breaks feed closes behind.symm
    exact .over tail (by rw [cut, first_eq]) after

theorem placed_of_stands (inert : Inert line) (breaks : Breaks ending) (feed : '\n' ∈ ending)
    (h : Stands (above ++ (line ++ ending ++ below)) found) :
    Placed above (line ++ ending) below found := by
  have some_line : line ++ ending ≠ [] := by
    rintro empty
    rw [List.append_eq_nil_iff.1 empty |>.2] at feed
    cases feed
  have unopened : openBrace ∉ line ++ ending := by
    rw [List.mem_append, not_or]
    exact ⟨inert.opens, breaks.apart (by decide) (by decide)⟩
  have cut : above ++ (line ++ ending ++ below) =
      found.before ++ (found.opening ++ (found.names ++ (found.closing ++ found.after))) := by
    rw [h.cut, LibraryImport.text]
    simp
  rcases List.append_eq_append_iff.1 cut with ⟨past, before, behind⟩ | ⟨past, above_eq, behind⟩
  · rcases List.append_eq_append_iff.1 behind with ⟨rest, past_eq, below_eq⟩ | ⟨last, within, split⟩
    · exact .under rest (by rw [before, past_eq]) below_eq
    · by_cases empty : last = []
      · subst empty
        rw [List.append_nil] at within
        rw [List.nil_append] at split
        exact .under [] (by rw [before, within, List.append_nil]) split.symm
      · exact (opening_begins_elsewhere inert breaks feed h.opens empty within split.symm).elim
  · rcases List.append_eq_append_iff.1 behind with ⟨first, past_eq, split⟩ | ⟨last, opening, split⟩
    · exact placed_of_opening_above inert breaks feed h.closes (by rw [above_eq, past_eq]) split.symm
    · obtain ⟨own, opened⟩ := exists_opening h.opens
      rcases List.eq_nil_or_concat last with rfl | ⟨front, d, rfl⟩
      · rw [List.append_nil] at opening
        have above_eq : above = found.before ++ (found.opening ++ []) := by
          rw [above_eq, opening, List.append_nil]
        exact placed_of_opening_above inert breaks feed h.closes above_eq split
      · -- the opening brace stands below the line, so the line stands in the opening
        rw [List.concat_eq_append] at *
        have brace : d = openBrace := by
          have ends := congrArg List.getLast? (opened.symm.trans opening)
          rw [← List.append_assoc, List.getLast?_concat, List.getLast?_concat] at ends
          exact (Option.some.inj ends).symm
        subst brace
        have split : front ++ openBrace :: (found.names ++ (found.closing ++ found.after)) =
            line ++ ending ++ below := by
          rw [split]
          simp
        obtain ⟨between, rfl, below_eq⟩ := Text.exists_beyond unopened split
        by_cases empty : past = []
        · subst empty
          have begins : line ++ ending ++ below =
              found.opening ++ (found.names ++ (found.closing ++ found.after)) := by
            rw [opening, below_eq]
            simp
          exact (opening_begins_elsewhere inert breaks feed h.opens some_line
            (List.nil_append _).symm begins).elim
        · have opens : Opens (past ++ (line ++ ending ++ (between ++ [openBrace]))) := by
            have := h.opens
            rw [opening] at this
            simpa using this
          exact (opening_ends_above inert feed empty opens).elim

def shift (place width n : Nat) : Nat :=
  if n < place then n else n + width

theorem elim_getLast?_append (closed : Closed above) (rest : Text) :
    (above ++ rest).getLast?.elim false Text.isWord = rest.getLast?.elim false Text.isWord := by
  rw [List.getLast?_append]
  cases rest.getLast? with
  | some c => rfl
  | none =>
      rcases closed with rfl | feed
      · rfl
      · rw [feed]
        decide

theorem exists_stands_of_insert {inserted : Text} (closed : Closed above)
    (closed' : Closed inserted) (h : Stands (above ++ (inserted ++ below)) found)
    (placed : Placed above inserted below found) :
    ∃ inner, Stands (above ++ below) inner ∧
      found.before.length = shift above.length inserted.length inner.before.length ∧
      found.opening.length = inner.opening.length ∧ found.closing.length = inner.closing.length := by
  obtain ⟨apart, _, opens, names, closes⟩ := h
  obtain ⟨own, opening⟩ := exists_opening opens
  have some_opening : 0 < found.opening.length := by simp [opening]
  rcases placed with ⟨rest, cut, after⟩ | ⟨first, second, cut, listed, behind⟩ | ⟨rest, before, cut⟩
  · refine ⟨{ found with after := rest ++ below },
      ⟨apart, by simp [LibraryImport.text, cut], opens, names, closes⟩, ?_, rfl, rfl⟩
    have size := congrArg List.length cut
    simp only [List.length_append] at size
    show found.before.length = shift above.length inserted.length found.before.length
    rw [shift, if_pos (by omega)]
  · have names : closeBrace ∉ first ++ second := by
      rw [listed] at names
      simp only [List.mem_append, not_or] at names ⊢
      exact ⟨names.1, names.2.2⟩
    refine ⟨{ found with names := first ++ second },
      ⟨apart, by simp [LibraryImport.text, cut, behind], opens, names, closes⟩, ?_, rfl, rfl⟩
    have size := congrArg List.length cut
    simp only [List.length_append] at size
    show found.before.length = shift above.length inserted.length found.before.length
    rw [shift, if_pos (by omega)]
  · have apart : (above ++ rest).getLast?.elim false Text.isWord = false := by
      rw [before, elim_getLast?_append closed, elim_getLast?_append closed'] at apart
      rw [elim_getLast?_append closed, apart]
    refine ⟨{ found with before := above ++ rest },
      ⟨apart, by simp [LibraryImport.text, cut], opens, names, closes⟩, ?_, rfl, rfl⟩
    rw [before, shift, if_neg (by simp)]
    simp only [List.length_append]
    omega

/-- A place strictly inside an import. -/
def CutAt (place : Nat) (found : LibraryImport) : Prop :=
  found.before.length < place ∧
    place < (found.before ++ found.opening ++ found.names ++ found.closing).length

theorem below_or_above_of_not_cutAt (cut : above ++ below = found.text)
    (whole : ¬ CutAt above.length found) :
    (above.length ≤ found.before.length ∧ ∃ rest, found.before = above ++ rest ∧
      below = rest ++ (found.opening ++ (found.names ++ (found.closing ++ found.after)))) ∨
    (found.before.length < above.length ∧ ∃ rest,
      above = found.before ++ found.opening ++ found.names ++ found.closing ++ rest ∧
        found.after = rest ++ below) := by
  rw [LibraryImport.text] at cut
  unfold CutAt at whole
  by_cases under : above.length ≤ found.before.length
  · have split : above ++ below = found.before ++
        (found.opening ++ (found.names ++ (found.closing ++ found.after))) := by
      rw [cut]
      simp
    obtain ⟨rest, before⟩ : above <+: found.before :=
      List.prefix_of_prefix_length_le ⟨_, split⟩ (List.prefix_append ..) under
    rw [← before, List.append_assoc] at split
    exact .inl ⟨under, rest, before.symm, List.append_cancel_left split⟩
  · have window : (found.before ++ found.opening ++ found.names ++ found.closing).length ≤
        above.length := by omega
    obtain ⟨rest, above_eq⟩ : found.before ++ found.opening ++ found.names ++ found.closing <+: above :=
      List.prefix_of_prefix_length_le ⟨_, cut.symm⟩ (List.prefix_append ..) window
    rw [← above_eq, List.append_assoc] at cut
    exact .inr ⟨by omega, rest, above_eq.symm, (List.append_cancel_left cut).symm⟩

theorem exists_stands_insert {inserted : Text} (closed : Closed above) (closed' : Closed inserted)
    (h : Stands (above ++ below) found) (whole : ¬ CutAt above.length found) :
    ∃ moved, Stands (above ++ (inserted ++ below)) moved ∧
      moved.before.length = shift above.length inserted.length found.before.length ∧
      moved.opening = found.opening ∧ moved.names = found.names ∧ moved.closing = found.closing ∧
      ∃ front back, Closed front ∧ found.body = front ++ back ∧
        moved.body = front ++ (inserted ++ back) := by
  obtain ⟨apart, cut, opens, names, closes⟩ := h
  rcases below_or_above_of_not_cutAt cut whole with
    ⟨_, rest, before, below_eq⟩ | ⟨ahead, rest, above_eq, after⟩
  · -- it stands below the place
    have apart : (above ++ (inserted ++ rest)).getLast?.elim false Text.isWord = false := by
      rw [before, elim_getLast?_append closed] at apart
      rw [elim_getLast?_append closed, elim_getLast?_append closed', apart]
    refine ⟨{ found with before := above ++ (inserted ++ rest) },
      ⟨apart, by simp [LibraryImport.text, below_eq], opens, names, closes⟩, ?_, rfl, rfl, rfl,
      above, rest ++ found.after, closed, by simp [body, before], by simp [body]⟩
    rw [before, shift, if_neg (by simp)]
    simp only [List.length_append]
    omega
  · have closed_front : Closed (found.before ++ rest) := by
      obtain ⟨mark, quote, last⟩ := getLast?_closing closes
      rcases closed with empty | feed
      · rw [empty] at ahead
        cases ahead
      · right
        rw [above_eq, List.getLast?_append, List.getLast?_append, last] at feed
        rw [List.getLast?_append]
        cases own_last : rest.getLast? with
        | some c => simpa [own_last] using feed
        | none =>
            rw [own_last] at feed
            exact absurd (Option.some.inj feed) (quote_ne quote (by decide))
    refine ⟨{ found with after := rest ++ (inserted ++ below) },
      ⟨apart, by simp [LibraryImport.text, above_eq], opens, names, closes⟩, ?_, rfl, rfl, rfl,
      found.before ++ rest, below, closed_front, by simp [body, after], by simp [body]⟩
    rw [shift, if_pos (by omega)]

theorem find?_insert_of_none (inert : Inert line) (breaks : Breaks ending)
    (ends : ending.getLast? = some '\n') (closed : Closed above)
    (absent : find? (above ++ below) = none) : find? (above ++ (line ++ ending ++ below)) = none := by
  have feed := List.mem_of_getLast? ends
  have closed' : Closed (line ++ ending) := by
    right
    rw [List.getLast?_append, ends]
    rfl
  refine find?_eq_none_iff.2 fun found stands => ?_
  obtain ⟨inner, stands', _⟩ := exists_stands_of_insert closed closed' stands
    (placed_of_stands inert breaks feed stands)
  exact find?_eq_none_iff.1 absent inner stands'

theorem find?_insert (inert : Inert line) (breaks : Breaks ending)
    (ends : ending.getLast? = some '\n') (closed : Closed above)
    (first : find? (above ++ below) = some found) (whole : ¬ CutAt above.length found) :
    ∃ moved, find? (above ++ (line ++ ending ++ below)) = some moved ∧
      moved.before.length = shift above.length (line ++ ending).length found.before.length ∧
      moved.opening = found.opening ∧ moved.names = found.names ∧ moved.closing = found.closing ∧
      ∃ front back, Closed front ∧ found.body = front ++ back ∧
        moved.body = front ++ (line ++ ending ++ back) := by
  have feed := List.mem_of_getLast? ends
  have closed' : Closed (line ++ ending) := by
    right
    rw [List.getLast?_append, ends]
    rfl
  obtain ⟨stands, least⟩ := find?_eq_some_iff.1 first
  obtain ⟨moved, stands', before, opening, names, closing, body⟩ :=
    exists_stands_insert closed closed' stands whole
  refine ⟨moved, find?_eq_some_iff.2 ⟨stands', fun other stands'' earlier => ?_⟩, before, opening,
    names, closing, body⟩
  obtain ⟨inner, within, before', opening', closing'⟩ :=
    exists_stands_of_insert closed closed' stands'' (placed_of_stands inert breaks feed stands'')
  refine least inner within ?_
  unfold Earlier at earlier ⊢
  rw [before, before', opening, opening', closing, closing'] at earlier
  unfold shift at earlier
  split at earlier <;> split at earlier <;> omega

theorem stands_append (h : Stands text found) (tail : Text) :
    Stands (text ++ tail) { found with after := found.after ++ tail } := by
  obtain ⟨apart, cut, opens, names, closes⟩ := h
  exact ⟨apart, by simp [LibraryImport.text, cut], opens, names, closes⟩

theorem exists_stands_of_append (inert : Inert line) (breaks : Breaks ending)
    (h : Stands (text ++ (ending ++ line)) found) :
    ∃ inner, Stands text inner ∧ found = { inner with after := inner.after ++ (ending ++ line) } := by
  obtain ⟨apart, cut, opens, names, ⟨_, ⟨own, clause, unbroken, source, rfl⟩, closing⟩⟩ := h
  have none_first : Breaks [] := fun _ member => by cases member
  have split : text ++ (ending ++ (line ++ []) ++ []) =
      found.before ++ found.opening ++ found.names ++ closeBrace :: own ++ (clause ++ found.after) := by
    rw [List.append_nil, List.append_nil, cut, LibraryImport.text, closing]
    simp
  rcases source_above_or_below inert breaks none_first source split with ⟨rest, text_eq⟩ | ⟨rest, below⟩
  · have after : found.after = rest ++ (ending ++ line) := by
      rw [text_eq] at split
      simp only [List.append_assoc, List.append_cancel_left_eq, List.append_nil] at split
      exact split.symm
    refine ⟨{ found with after := rest },
      ⟨apart, ?_, opens, names, ⟨_, ⟨own, clause, unbroken, source, rfl⟩, closing⟩⟩, ?_⟩
    · rw [text_eq, LibraryImport.text, closing]
      simp
    · rw [← after]
  · -- nothing is left for the source
    have size := congrArg List.length split
    rw [below] at size
    obtain ⟨word, rfl, _⟩ := source_starts source
    simp only [List.length_append, List.length_cons, List.length_nil] at size
    omega

theorem find?_append (inert : Inert line) (breaks : Breaks ending) (text : Text) :
    find? (text ++ (ending ++ line)) =
      (find? text).map fun found => { found with after := found.after ++ (ending ++ line) } := by
  cases first : find? text with
  | none =>
      refine find?_eq_none_iff.2 fun found stands => ?_
      obtain ⟨inner, within, _⟩ := exists_stands_of_append inert breaks stands
      exact find?_eq_none_iff.1 first inner within
  | some found =>
      obtain ⟨stands, least⟩ := find?_eq_some_iff.1 first
      refine find?_eq_some_iff.2 ⟨stands_append stands _, fun other stands' earlier => ?_⟩
      obtain ⟨inner, within, rfl⟩ := exists_stands_of_append inert breaks stands'
      exact least inner within earlier

theorem infix_of_insert {front back : Text} (h : usage.OneLine) (absent : ¬ usage <:+: line)
    (ending : LineEnding) (closed : Closed front)
    (found : usage <:+: front ++ (line ++ ending.text ++ back)) : usage <:+: front ++ back := by
  have below : usage <:+: line ++ ending.text ++ back → usage <:+: back := fun inside =>
    ((Text.infix_append_separator_iff (h.apart ending) ending.text_ne_nil).1 inside).resolve_left
      absent
  rcases closed with rfl | feed
  · exact below found
  · obtain ⟨front, rfl⟩ := List.getLast?_eq_some_iff.1 feed
    have apart := h.apart .lf
    rw [LineEnding.text] at apart
    rw [Text.infix_append_separator_iff apart (by simp)] at found ⊢
    exact found.imp_right below

theorem addIfUsed_insert_of_none (inert : Inert line) (ending : LineEnding) (closed : Closed above)
    (h : usage.OneLine) (absent : ¬ usage <:+: line)
    (idle : addIfUsed symbol usage (above ++ below) = none)
    (whole : ∀ found, find? (above ++ below) = some found → ¬ CutAt above.length found) :
    addIfUsed symbol usage (above ++ (line ++ ending.text ++ below)) = none := by
  have breaks : Breaks ending.text := by cases ending <;> simp [Breaks, LineEnding.text]
  have ends : ending.text.getLast? = some '\n' := by cases ending <;> rfl
  refine addIfUsed_eq_none_iff.2 fun moved first => ?_
  cases before : find? (above ++ below) with
  | none =>
      rw [find?_insert_of_none inert breaks ends closed before] at first
      cases first
  | some found =>
      obtain ⟨moved', first', _, _, names, _, front, back, closed', body, body'⟩ :=
        find?_insert inert breaks ends closed before (whole found before)
      rw [first'] at first
      obtain rfl := Option.some.inj first
      rcases addIfUsed_eq_none_iff.1 idle found before with listed | unused
      · exact .inl (names ▸ listed)
      · right
        rw [Bool.eq_false_iff, ne_eq, Text.occursIn_iff_infix, body'] at *
        rw [body] at unused
        exact fun used => unused (infix_of_insert h absent ending closed' used)

theorem addIfUsed_append_of_none (inert : Inert line) (ending : LineEnding) (h : usage.OneLine)
    (absent : ¬ usage <:+: line) (idle : addIfUsed symbol usage text = none) :
    addIfUsed symbol usage (text ++ (ending.text ++ line)) = none := by
  have breaks : Breaks ending.text := by cases ending <;> simp [Breaks, LineEnding.text]
  refine addIfUsed_eq_none_iff.2 fun moved first => ?_
  rw [find?_append inert breaks] at first
  obtain ⟨found, before, rfl⟩ := Option.map_eq_some_iff.1 first
  rcases addIfUsed_eq_none_iff.1 idle found before with listed | unused
  · exact .inl listed
  · right
    rw [Bool.eq_false_iff, ne_eq, Text.occursIn_iff_infix] at *
    intro used
    have used : usage <:+: found.body ++ ending.text ++ line := by
      simpa [body] using used
    rw [Text.infix_append_separator_iff (h.apart ending) ending.text_ne_nil] at used
    exact used.elim unused absent

end DiagnosticRepair.LibraryImport
