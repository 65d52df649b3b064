import DiagnosticRepair.Proofs.Path.Reading
import DiagnosticRepair.Proofs.Text.Occurrence
import DiagnosticRepair.Text.Blank
import DiagnosticRepair.Text.Reading

namespace DiagnosticRepair

namespace Text

def toCrlf : Text → Text
  | [] => []
  | c :: rest => if c = '\n' then '\r' :: '\n' :: toCrlf rest else c :: toCrlf rest

variable {p : Char → Bool} {start needle separator first second : Text}

@[simp]
theorem toCrlf_nil : toCrlf [] = [] := rfl

@[simp]
theorem toCrlf_feed (rest : Text) : toCrlf ('\n' :: rest) = '\r' :: '\n' :: toCrlf rest := rfl

theorem toCrlf_cons {c : Char} (h : c ≠ '\n') (rest : Text) : toCrlf (c :: rest) = c :: toCrlf rest := by
  rw [toCrlf, if_neg h]

theorem toCrlf_append (first second : Text) :
    toCrlf (first ++ second) = toCrlf first ++ toCrlf second := by
  induction first with
  | nil => rfl
  | cons c rest ih =>
      by_cases h : c = '\n'
      · subst h
        simp [ih]
      · simp [toCrlf_cons h, ih]

theorem toCrlf_of_unbroken (h : '\n' ∉ first) : toCrlf first = first := by
  induction first with
  | nil => rfl
  | cons c rest ih =>
      rw [List.mem_cons, not_or] at h
      rw [toCrlf_cons (Ne.symm h.1), ih h.2]

theorem OneLine.toCrlf_eq (h : OneLine first) : toCrlf first = first :=
  toCrlf_of_unbroken fun member => (h _ member).2 rfl

theorem isEmpty_toCrlf (text : Text) : (toCrlf text).isEmpty = text.isEmpty := by
  cases text with
  | nil => rfl
  | cons c rest => by_cases h : c = '\n' <;> simp [toCrlf, h]

theorem getLast?_toCrlf (text : Text) : (toCrlf text).getLast? = text.getLast? := by
  rcases List.eq_nil_or_concat text with rfl | ⟨above, c, rfl⟩
  · rfl
  · rw [List.concat_eq_append, toCrlf_append, List.getLast?_append, List.getLast?_append]
    by_cases h : c = '\n' <;> simp [toCrlf, h]

theorem any_head?_toCrlf (same : p '\r' = p '\n') (text : Text) :
    (toCrlf text).head?.any p = text.head?.any p := by
  cases text with
  | nil => rfl
  | cons c rest => by_cases h : c = '\n' <;> simp [toCrlf, h, same]

theorem takeWhile_toCrlf (same : p '\r' = p '\n') (text : Text) :
    (toCrlf text).takeWhile p = toCrlf (text.takeWhile p) := by
  induction text with
  | nil => rfl
  | cons c rest ih =>
      by_cases h : c = '\n'
      · subst h
        cases holds : p '\n' <;> simp [same, holds, ih]
      · rw [toCrlf_cons h]
        cases holds : p c <;> simp [holds, ih, toCrlf_cons h]

theorem dropWhile_toCrlf (same : p '\r' = p '\n') (text : Text) :
    (toCrlf text).dropWhile p = toCrlf (text.dropWhile p) := by
  induction text with
  | nil => rfl
  | cons c rest ih =>
      by_cases h : c = '\n'
      · subst h
        cases holds : p '\n' <;> simp [same, holds, ih]
      · rw [toCrlf_cons h]
        cases holds : p c <;> simp [holds, ih, toCrlf_cons h]

theorem dropEndWhile_toCrlf (same : p '\r' = p '\n') (text : Text) :
    dropEndWhile p (toCrlf text) = toCrlf (dropEndWhile p text) := by
  induction text with
  | nil => rfl
  | cons c rest ih =>
      by_cases h : c = '\n'
      · subst h
        rw [toCrlf_feed, dropEndWhile, dropEndWhile, ih, dropEndWhile]
        cases dropEndWhile p rest with
        | nil => cases holds : p '\n' <;> simp [same, holds]
        | cons d kept => by_cases feed : d = '\n' <;> simp [toCrlf, feed]
      · rw [toCrlf_cons h, dropEndWhile, ih, dropEndWhile]
        cases dropEndWhile p rest with
        | nil => cases holds : p c <;> simp [toCrlf, h]
        | cons d kept => by_cases feed : d = '\n' <;> simp [toCrlf, feed, h]

theorem trimStart_toCrlf (text : Text) : trimStart (toCrlf text) = toCrlf (trimStart text) :=
  dropWhile_toCrlf (by decide) text

theorem trim_toCrlf (text : Text) : trim (toCrlf text) = toCrlf (trim text) := by
  rw [trim, trimStart_toCrlf, trimEnd, dropEndWhile_toCrlf (by decide)]
  rfl

theorem trimStart_of_allBlank (h : allBlank first = true) : trimStart first = [] := by
  induction first with
  | nil => rfl
  | cons c rest ih =>
      unfold allBlank trimStart at *
      rw [List.all_cons, Bool.and_eq_true] at h
      rw [List.dropWhile_cons, if_pos h.1, ih h.2]

theorem trimStart_concat {c : Char} (blank : isBlank c = true) (text : Text) :
    trimStart (text ++ [c]) = if allBlank text then [] else trimStart text ++ [c] := by
  induction text with
  | nil => simp [trimStart, allBlank, blank]
  | cons d rest ih =>
      unfold trimStart allBlank at ih ⊢
      rw [List.cons_append, List.dropWhile_cons, List.dropWhile_cons, List.all_cons]
      cases isBlank d with
      | true => simpa using ih
      | false => simp

theorem run?_toCrlf (same : p '\r' = p '\n') (text : Text) :
    run? p (toCrlf text) = (run? p text).map fun (run, rest) => (toCrlf run, toCrlf rest) := by
  simp only [run?, takeWhile_toCrlf same, dropWhile_toCrlf same, isEmpty_toCrlf]
  split <;> rfl

theorem isPrefixOf_toCrlf (h : OneLine start) (text : Text) :
    start.isPrefixOf (toCrlf text) = start.isPrefixOf text := by
  induction start generalizing text with
  | nil => simp
  | cons s more ih =>
      obtain ⟨noReturn, noFeed⟩ := h s (List.mem_cons_self ..)
      cases text with
      | nil => rfl
      | cons c rest =>
          by_cases feed : c = '\n'
          · subst feed
            rw [toCrlf_feed, List.isPrefixOf_cons_cons, List.isPrefixOf_cons_cons,
              beq_false_of_ne noReturn, beq_false_of_ne noFeed, Bool.false_and, Bool.false_and]
          · rw [toCrlf_cons feed, List.isPrefixOf_cons_cons, List.isPrefixOf_cons_cons,
              ih fun d member => h d (List.mem_cons_of_mem _ member)]

theorem after?_toCrlf (h : OneLine start) (text : Text) :
    after? start (toCrlf text) = (after? start text).map toCrlf := by
  cases found : after? start text with
  | none =>
      rw [Option.map_none]
      unfold after? at found ⊢
      rw [isPrefixOf_toCrlf h]
      split at found
      · cases found
      · rename_i differs
        rw [if_neg differs]
  | some rest =>
      rw [eq_append_of_after? found, toCrlf_append, h.toCrlf_eq, after?_append]
      rfl

theorem splitFrom_skip (skip : Nat) (text : Text) :
    splitFrom separator skip text = splitFrom separator 0 (text.drop skip) := by
  induction text generalizing skip with
  | nil => simp [splitFrom]
  | cons c rest ih =>
      cases skip with
      | zero => rfl
      | succ skip => exact ih skip

theorem splitOn_separator_append (some_separator : separator ≠ []) (rest : Text) :
    splitOn separator (separator ++ rest) = [] :: splitOn separator rest := by
  cases separator with
  | nil => exact absurd rfl some_separator
  | cons s more =>
      rw [splitOn, List.cons_append, splitFrom, if_pos (by simp)]
      rw [splitFrom_skip]
      simp [splitOn]

theorem splitOn_cons_of_not_start {c : Char} {rest : Text}
    (h : separator.isPrefixOf (c :: rest) = false) :
    splitOn separator (c :: rest) = (splitOn separator rest).modifyHead (c :: ·) := by
  rw [splitOn, splitFrom, if_neg (by simp [h])]
  rfl

theorem pieces_induction {motive : Text → Prop} (some_separator : separator ≠ [])
    (nil : motive []) (met : ∀ tail, motive tail → motive (separator ++ tail))
    (passed : ∀ c rest, separator.isPrefixOf (c :: rest) = false → motive rest → motive (c :: rest))
    (text : Text) : motive text := by
  induction size : text.length using Nat.strongRecOn generalizing text with
  | ind n ih =>
    cases text with
    | nil => exact nil
    | cons c rest =>
        cases found : separator.isPrefixOf (c :: rest) with
        | true =>
            obtain ⟨tail, split⟩ := List.isPrefixOf_iff_prefix.1 found
            have shorter : tail.length < n := by
              have := congrArg List.length split
              have := List.length_pos_iff.2 some_separator
              simp at *
              omega
            rw [← split]
            exact met tail (ih _ shorter tail rfl)
        | false => exact passed c rest found (ih rest.length (by simp at size; omega) rest rfl)

theorem splitOn_toCrlf (h : OneLine separator) (some_separator : separator ≠ []) (text : Text) :
    splitOn separator (toCrlf text) = (splitOn separator text).map toCrlf := by
  induction text using pieces_induction some_separator with
  | nil => rfl
  | met tail ih =>
      rw [toCrlf_append, h.toCrlf_eq, splitOn_separator_append some_separator,
        splitOn_separator_append some_separator, ih]
      rfl
  | passed c rest found ih =>
      have found' := isPrefixOf_toCrlf h (c :: rest)
      rw [found] at found'
      have heads : ∀ pieces : List Text, (pieces.map toCrlf).modifyHead (toCrlf [c] ++ ·) =
          (pieces.modifyHead (c :: ·)).map toCrlf := by
        intro pieces
        cases pieces with
        | nil => rfl
        | cons piece pieces => by_cases feed : c = '\n' <;> simp [toCrlf, feed]
      rw [splitOn_cons_of_not_start found, ← heads, ← ih]
      by_cases feed : c = '\n'
      · subst feed
        rw [toCrlf_feed] at found' ⊢
        have apart : separator.isPrefixOf ('\n' :: toCrlf rest) = false := by
          cases separator with
          | nil => exact absurd rfl some_separator
          | cons s more =>
              rw [List.isPrefixOf_cons_cons,
                beq_false_of_ne (h s (List.mem_cons_self ..)).2, Bool.false_and]
        rw [splitOn_cons_of_not_start found', splitOn_cons_of_not_start apart,
          List.modifyHead_modifyHead]
        rfl
      · rw [toCrlf_cons feed] at found' ⊢
        rw [splitOn_cons_of_not_start found']
        simp [toCrlf, feed]

theorem splitOn_cons_of_ne {c other : Char} (h : c ≠ other) (rest : Text) :
    splitOn [other] (c :: rest) = (splitOn [other] rest).modifyHead (c :: ·) :=
  splitOn_cons_of_not_start (by
    rw [List.isPrefixOf_cons_cons, beq_false_of_ne (Ne.symm h), Bool.false_and])

theorem mem_of_mem_modifyHead {c d : Char} {pieces : List Text} {piece : Text}
    (h : piece ∈ pieces.modifyHead (c :: ·)) (member : d ∈ piece) :
    d = c ∨ ∃ other ∈ pieces, d ∈ other := by
  cases pieces with
  | nil => cases h
  | cons first rest =>
      rcases List.mem_cons.1 h with rfl | later
      · rcases List.mem_cons.1 member with rfl | inside
        · exact .inl rfl
        · exact .inr ⟨first, List.mem_cons_self .., inside⟩
      · exact .inr ⟨piece, List.mem_cons_of_mem _ later, member⟩

theorem mem_of_mem_splitOn {other c : Char} {text piece : Text}
    (h : piece ∈ splitOn [other] text) (member : c ∈ piece) : c ∈ text := by
  induction text generalizing piece with
  | nil =>
      rw [List.mem_singleton.1 h] at member
      cases member
  | cons d rest ih =>
      by_cases same : d = other
      · subst same
        rw [splitOn_cons_separator] at h
        rcases List.mem_cons.1 h with rfl | later
        · cases member
        · exact List.mem_cons_of_mem _ (ih later member)
      · rw [splitOn_cons_of_ne same] at h
        rcases mem_of_mem_modifyHead h member with rfl | ⟨piece, inside, found⟩
        · exact List.mem_cons_self ..
        · exact List.mem_cons_of_mem _ (ih inside found)

theorem mem_join {c : Char} : ∀ {pieces : List Text},
    c ∈ join separator pieces → c ∈ separator ∨ ∃ piece ∈ pieces, c ∈ piece
  | [], member => by cases member
  | [piece], member => by
      rw [join_singleton] at member
      exact .inr ⟨piece, List.mem_cons_self .., member⟩
  | piece :: next :: rest, member => by
      rw [join_cons_cons, List.mem_append, List.mem_append] at member
      rcases member with (first | between) | later
      · exact .inr ⟨piece, List.mem_cons_self .., first⟩
      · exact .inl between
      · exact (mem_join later).imp_right fun ⟨other, inside, within⟩ =>
          ⟨other, List.mem_cons_of_mem _ inside, within⟩

theorem subset_join_of_separator {pieces : List Text} (many : 2 ≤ pieces.length) :
    separator ⊆ join separator pieces := by
  intro c member
  match pieces, many with
  | piece :: next :: rest, _ =>
      rw [join_cons_cons]
      simp [member]

theorem unbroken_of_mem_splitOn {other : Char} {text piece : Text}
    (h : piece ∈ splitOn [other] text) : other ∉ piece := by
  induction text generalizing piece with
  | nil =>
      rw [List.mem_singleton.1 h]
      exact List.not_mem_nil
  | cons c rest ih =>
      by_cases same : c = other
      · subst same
        rw [splitOn_cons_separator] at h
        rcases List.mem_cons.1 h with rfl | later
        · exact List.not_mem_nil
        · exact ih later
      · rw [splitOn_cons_of_ne same] at h
        intro member
        rcases mem_of_mem_modifyHead h member with found | ⟨piece, inside, found⟩
        · exact same found.symm
        · exact ih inside found

end Text

namespace LineEnding

variable {text : Text}

theorem ofText_of_noReturn (h : '\r' ∉ text) : ofText text = .lf := by
  unfold ofText
  rw [if_neg]
  intro found
  exact h ((Text.occursIn_iff_infix.1 found).subset (List.mem_cons_self ..))

theorem ofText_toCrlf (h : '\n' ∈ text) : ofText (Text.toCrlf text) = .crlf := by
  unfold ofText
  rw [if_pos]
  obtain ⟨above, below, rfl⟩ := List.append_of_mem h
  rw [Text.toCrlf_append, Text.toCrlf_feed]
  exact Text.occursIn_iff_infix.2 ⟨Text.toCrlf above, Text.toCrlf below, by simp⟩

theorem crlf_split_toCrlf (h : '\r' ∉ text) :
    LineEnding.crlf.split (Text.toCrlf text) = LineEnding.lf.split text := by
  show Text.splitOn ['\r', '\n'] _ = Text.splitOn ['\n'] _
  induction text with
  | nil => rfl
  | cons c rest ih =>
      rw [List.mem_cons, not_or] at h
      by_cases feed : c = '\n'
      · subst feed
        rw [Text.splitOn_cons_separator, Text.toCrlf_feed, ← ih h.2]
        have some_ending : ['\r', '\n'] ≠ [] := by simp
        exact Text.splitOn_separator_append some_ending _
      · rw [Text.toCrlf_cons feed, Text.splitOn_cons_of_ne feed, ← ih h.2]
        refine Text.splitOn_cons_of_not_start ?_
        rw [List.isPrefixOf_cons_cons, beq_false_of_ne h.1, Bool.false_and]

theorem crlf_join (lines : List Text) (h : ∀ line ∈ lines, '\n' ∉ line) :
    LineEnding.crlf.join lines = Text.toCrlf (LineEnding.lf.join lines) := by
  show Text.join ['\r', '\n'] lines = Text.toCrlf (Text.join ['\n'] lines)
  induction lines with
  | nil => rfl
  | cons line rest ih =>
      have alone := Text.toCrlf_of_unbroken (h line (List.mem_cons_self ..))
      cases rest with
      | nil => rw [Text.join_singleton, Text.join_singleton, alone]
      | cons next more =>
          rw [Text.join_cons_cons, Text.join_cons_cons, Text.toCrlf_append, Text.toCrlf_append,
            alone, ih fun other member => h other (List.mem_cons_of_mem _ member)]
          rfl

def withReturns : List Text → List Text
  | [] => []
  | [last] => [last]
  | line :: next :: rest => (line ++ ['\r']) :: withReturns (next :: rest)

theorem lf_split_toCrlf (text : Text) :
    LineEnding.lf.split (Text.toCrlf text) = withReturns (LineEnding.lf.split text) := by
  show Text.splitOn ['\n'] _ = withReturns (Text.splitOn ['\n'] _)
  induction text with
  | nil => rfl
  | cons c rest ih =>
      by_cases feed : c = '\n'
      · subst feed
        rw [Text.toCrlf_feed, Text.splitOn_cons_of_ne (by decide), Text.splitOn_cons_separator,
          Text.splitOn_cons_separator, ih]
        cases lines : Text.splitOn ['\n'] rest with
        | nil => exact absurd lines (Text.splitOn_ne_nil _ _)
        | cons line more => rfl
      · rw [Text.toCrlf_cons feed, Text.splitOn_cons_of_ne feed, Text.splitOn_cons_of_ne feed, ih]
        rcases Text.splitOn ['\n'] rest with _ | ⟨line, _ | ⟨next, more⟩⟩ <;> rfl

theorem lf_join_withReturns : ∀ lines : List Text, (∀ line ∈ lines, '\n' ∉ line) →
    LineEnding.lf.join (withReturns lines) = Text.toCrlf (LineEnding.lf.join lines)
  | [], _ => rfl
  | [last], h => by
      have alone := Text.toCrlf_of_unbroken (h last (List.mem_cons_self ..))
      show Text.join _ [last] = Text.toCrlf (Text.join _ [last])
      rw [Text.join_singleton, alone]
  | line :: next :: rest, h => by
      have alone := Text.toCrlf_of_unbroken (h line (List.mem_cons_self ..))
      have later := lf_join_withReturns (next :: rest)
        fun other member => h other (List.mem_cons_of_mem _ member)
      have first : LineEnding.lf.join (withReturns (line :: next :: rest)) =
          line ++ ['\r'] ++ ['\n'] ++ LineEnding.lf.join (withReturns (next :: rest)) := by
        cases rest <;> exact Text.join_cons_cons ..
      rw [first, later]
      show _ = Text.toCrlf (Text.join ['\n'] _)
      rw [Text.join_cons_cons, Text.toCrlf_append, Text.toCrlf_append, alone]
      simp [join, LineEnding.text]

theorem unbroken_of_mem_split {line : Text} (h : line ∈ LineEnding.lf.split text) : '\n' ∉ line :=
  Text.unbroken_of_mem_splitOn h

end LineEnding

namespace Text

theorem occursIn_toCrlf {needle text : Text} (h : OneLine needle) (noReturn : '\r' ∉ text) :
    occursIn needle (toCrlf text) = occursIn needle text := by
  -- Both forms of a text have the same lines, and a line of text stands in one of them.
  by_cases empty : needle = []
  · subst empty
    rw [Bool.eq_iff_iff, occursIn_iff_infix, occursIn_iff_infix]
    exact iff_of_true List.nil_infix List.nil_infix
  · rw [Bool.eq_iff_iff, occursIn_iff_infix, occursIn_iff_infix,
      ← LineEnding.crlf.join_split (toCrlf text), LineEnding.crlf_split_toCrlf noReturn,
      infix_join_lines_iff h empty, ← infix_join_lines_iff h empty .lf, LineEnding.lf.join_split]

end Text

end DiagnosticRepair
