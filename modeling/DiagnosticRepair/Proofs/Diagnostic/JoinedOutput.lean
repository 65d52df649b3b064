import DiagnosticRepair.Proofs.Diagnostic.Rendering
import DiagnosticRepair.Proofs.Tool.Calls

namespace DiagnosticRepair

namespace Text

variable {text : Text}

theorem eq_nil_of_lines_eq_nil (h : lines text = []) : text = [] := by
  revert h
  fun_cases lines text <;> simp

theorem lines_append_feed_append (text rest : Text) : ∃ ended, (ended = [] ∨ ended = [[]]) ∧
    lines (text ++ '\n' :: rest) = lines text ++ ended ++ lines rest := by
  fun_induction lines text with
  | case1 => exact ⟨[[]], .inr rfl, rfl⟩
  | case2 more ih =>
      obtain ⟨ended, either, same⟩ := ih
      exact ⟨ended, either, by simp [lines, same]⟩
  | case3 c more single ends ih =>
      -- a carriage return at the end takes the line feed with it
      by_cases last : c = '\r' ∧ more = []
      · obtain ⟨rfl, rfl⟩ := last
        exact ⟨[], .inl rfl, rfl⟩
      · obtain ⟨ended, either, same⟩ := ih
        refine ⟨ended, either, ?_⟩
        rw [List.cons_append, lines.eq_3, if_pos ends, same]
        · rfl
        · intro others returns split
          cases more with
          | nil => exact last ⟨returns, rfl⟩
          | cons d more => exact single more returns (by rw [(List.cons.inj split).1])
  | case4 c more single goes none_left ih =>
      obtain rfl := eq_nil_of_lines_eq_nil none_left
      refine ⟨[], .inl rfl, ?_⟩
      rw [List.cons_append, lines_cons_of_noTerminator (by simpa using goes)]
      rfl
  | case5 c more single goes line others found ih =>
      obtain ⟨ended, either, same⟩ := ih
      refine ⟨ended, either, ?_⟩
      rw [List.cons_append, lines_cons_of_noTerminator (by simpa using goes), same, found]
      rfl

end Text

namespace Diagnostic

variable {chunks : List Text}

theorem parse_append_feed_append (first second : Text) :
    parse (first ++ '\n' :: second) = (do
      let above ← parse first
      let below ← parse second
      .ok (above ++ below)) := by
  obtain ⟨ended, either, same⟩ := Text.lines_append_feed_append first second
  have none_ended : ofLines ended = .ok [] := by
    rcases either with rfl | rfl <;> rfl
  rw [parse, same, List.append_assoc, ofLines_append, ofLines_append, none_ended, parse, parse]
  cases ofLines (Text.lines second) <;> rfl

theorem parseChunks_cons (chunk : Text) (chunks : List Text) :
    parseChunks (chunk :: chunks) = (do
      let above ← parse chunk
      let below ← parseChunks chunks
      .ok (above ++ below)) := by
  rw [parseChunks, List.flatMap_cons, ofLines_append]
  rfl

theorem parseChunks_singleton (chunk : Text) : parseChunks [chunk] = parse chunk := by
  rw [parseChunks, List.flatMap_singleton]
  rfl

theorem parse_join : ∀ chunks : List Text, parse (Text.join ['\n'] chunks) = parseChunks chunks
  | [] => rfl
  | [chunk] => by rw [Text.join_singleton, parseChunks_singleton]
  | chunk :: next :: rest => by
      rw [Text.join_cons_cons, List.append_assoc, List.singleton_append,
        parse_append_feed_append, parse_join (next :: rest), parseChunks_cons chunk]

theorem parseChunks_filter (chunks : List Text) :
    parseChunks (chunks.filter (!·.isEmpty)) = parseChunks chunks := by
  unfold parseChunks
  congr 1
  induction chunks with
  | nil => rfl
  | cons chunk chunks ih =>
      cases chunk with
      | nil => exact ih
      | cons c chunk =>
          rw [List.filter_cons_of_pos rfl, List.flatMap_cons, List.flatMap_cons, ih]

theorem exists_parseChunks (h : ∀ chunk ∈ chunks, ¬ Overlong chunk) :
    ∃ parts : List (List Diagnostic),
      chunks.map parse = parts.map .ok ∧ parseChunks chunks = .ok parts.flatten := by
  induction chunks with
  | nil => exact ⟨[], rfl, rfl⟩
  | cons chunk chunks ih =>
      obtain ⟨here, later⟩ := List.forall_mem_cons.1 h
      obtain ⟨part, read⟩ := parse_returns_iff.2 here
      obtain ⟨parts, others, rest⟩ := ih later
      refine ⟨part :: parts, ?_, ?_⟩
      · rw [List.map_cons, read, others, List.map_cons]
      · rw [parseChunks_cons, read, rest]
        rfl

end Diagnostic

namespace ToolResult

variable {code : Int} {stdout stderr : Text}

theorem allBlank_combined (stdout stderr : Text) :
    Text.allBlank (Text.join ['\n'] ([stdout, stderr].filter (!·.isEmpty))) =
      (Text.allBlank stdout && Text.allBlank stderr) := by
  have feed : Text.isBlank '\n' = true := rfl
  cases stdout with
  | nil =>
      cases stderr with
      | nil => rfl
      | cons d more => simp [Text.join_singleton, Text.allBlank]
  | cons c rest =>
      cases stderr with
      | nil => simp [Text.join_singleton, Text.allBlank]
      | cons d more =>
          simp [Text.join_cons_cons, Text.join_singleton, Text.allBlank, feed, Bool.and_assoc]

theorem answer_of_seen (words : List Text) (failed : code ≠ 0)
    (seen : Text.allBlank stdout = false ∨ Text.allBlank stderr = false) :
    (exited code stdout stderr).answer words =
      .ok (some (Text.join ['\n'] ([stdout, stderr].filter (!·.isEmpty)))) := by
  have visible := allBlank_combined stdout stderr
  rw [Bool.and_eq_false_iff.2 seen] at visible
  simp only [answer, if_neg failed, visible, Bool.false_eq_true, if_false]

end ToolResult

namespace Diagnostic

theorem joined_outputs_read_in_turn :
    (∀ first second, ¬ Overlong first → ¬ Overlong second →
      ∃ above below, parse first = .ok above ∧ parse second = .ok below ∧
        parse (first ++ '\n' :: second) = .ok (above ++ below)) ∧
    (∀ chunks, (∀ chunk ∈ chunks, ¬ Overlong chunk) → ∃ parts : List (List Diagnostic),
      chunks.map parse = parts.map .ok ∧ parseChunks chunks = .ok parts.flatten) ∧
    ∀ (world : World) (words : List Text) (directory : Path) (code : Int) (stdout stderr : Text)
      (effect : Disk → Disk), Call.error? ⟨words, directory⟩ = none →
      world.script.head? = some ⟨.exited code stdout stderr, effect⟩ → code ≠ 0 →
      Text.allBlank stdout = false ∨ Text.allBlank stderr = false →
      ¬ Overlong stdout → ¬ Overlong stderr →
      ∃ output above below, (world.call words directory).1 = .ok (some output) ∧
        parse stdout = .ok above ∧ parse stderr = .ok below ∧
        parse output = .ok (above ++ below) := by
  refine ⟨fun first second few few' => ?_, fun _ => exists_parseChunks, ?_⟩
  · obtain ⟨above, read⟩ := parse_returns_iff.2 few
    obtain ⟨below, read'⟩ := parse_returns_iff.2 few'
    refine ⟨above, below, read, read', ?_⟩
    rw [parse_append_feed_append, read, read']
    rfl
  · intro world words directory code stdout stderr effect made ran failed seen few few'
    obtain ⟨above, read⟩ := parse_returns_iff.2 few
    obtain ⟨below, read'⟩ := parse_returns_iff.2 few'
    have answer : (world.call words directory).1 =
        .ok (some (Text.join ['\n'] ([stdout, stderr].filter (!·.isEmpty)))) := by
      rw [World.call_of_none made, World.start, ran]
      exact ToolResult.answer_of_seen words failed seen
    refine ⟨_, above, below, answer, read, read', ?_⟩
    rw [parse_join, parseChunks_filter, parseChunks_cons, parseChunks_singleton, read, read']
    rfl

def returningOutput : Text :=
  "Found 1 error.\x0ba.tsx(1,2): error TS1: x\r".toList

def feedingOutput : Text :=
  "\n\x0cb.tsx(3,4): error TS2: y".toList

theorem joined_outputs_read_in_turn_returning :
    let world : World := ⟨.empty [], [⟨.exited 2 returningOutput feedingOutput, id⟩], []⟩
    let above : Diagnostic := ⟨"a.tsx", 1, 2, "TS1", "x", "a.tsx(1,2): error TS1: x"⟩
    let below : Diagnostic := ⟨"b.tsx", 3, 4, "TS2", "y", "b.tsx(3,4): error TS2: y"⟩
    parse (returningOutput ++ '\n' :: feedingOutput) = .ok [above, below] ∧
      parseChunks [feedingOutput, [], returningOutput] = .ok [below, above] ∧
      ∃ output, (world.call ["npx", "tsc"] "/project").1 = .ok (some output) ∧
        parse output = .ok [above, below] := by
  intro world above below
  have read : parse returningOutput = .ok [above] := parse_of_toOption (by decide +kernel)
  have read' : parse feedingOutput = .ok [below] := parse_of_toOption (by decide +kernel)
  have few : ¬ Overlong returningOutput := parse_returns_iff.1 ⟨_, read⟩
  have few' : ¬ Overlong feedingOutput := parse_returns_iff.1 ⟨_, read'⟩
  have few'' : ¬ Overlong [] := parse_returns_iff.1 ⟨[], rfl⟩
  obtain ⟨joined, chunked, called⟩ := joined_outputs_read_in_turn
  refine ⟨?_, ?_, ?_⟩
  · obtain ⟨_, _, first, second, whole⟩ := joined _ _ few few'
    cases read.symm.trans first
    cases read'.symm.trans second
    exact whole
  · obtain ⟨parts, each, whole⟩ := chunked [feedingOutput, [], returningOutput]
      (by simp [few, few', few''])
    have parts_eq : parts = [[below], [], [above]] := by
      have ok_inj : ∀ part part' : List Diagnostic,
          (.ok part : Except TooManyDigits _) = .ok part' → part = part' := fun _ _ => Except.ok.inj
      refine (List.map_inj_right ok_inj).1 ?_
      rw [← each, List.map_cons, List.map_cons, List.map_singleton, read, read']
      rfl
    rw [whole, parts_eq]
    rfl
  · obtain ⟨output, _, _, answer, first, second, whole⟩ := called world ["npx", "tsc"] "/project" 2
      returningOutput feedingOutput id (by decide) rfl (by decide) (.inl (by decide)) few few'
    cases read.symm.trans first
    cases read'.symm.trans second
    exact ⟨output, answer, whole⟩

end Diagnostic

end DiagnosticRepair
