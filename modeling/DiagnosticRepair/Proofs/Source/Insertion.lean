import DiagnosticRepair.Proofs.Source.Edits
import DiagnosticRepair.Proofs.Source.ImportRun
import DiagnosticRepair.Proofs.Text.Cutting

namespace DiagnosticRepair

namespace ImportBlock

variable {text statement : Text} {statements before picked : List Text}

theorem needle_isInfix (statement : Text) : needle statement <:+: statement := by
  unfold needle
  split
  · exact (List.dropLast_prefix statement).isInfix
  · exact List.infix_rfl

/-- `Picks text before statements picked`: neither the text nor a statement picked before has what
is picked, and what is not picked stands in one of them. -/
inductive Picks (text : Text) : List Text → List Text → List Text → Prop
  | nil {before : List Text} : Picks text before [] []
  | skip {statement : Text} {before rest picked : List Text}
      (present : needle statement <:+: text ∨ ∃ other ∈ before, needle statement <:+: other)
      (later : Picks text before rest picked) : Picks text before (statement :: rest) picked
  | pick {statement : Text} {before rest picked : List Text}
      (absent : ¬ needle statement <:+: text)
      (new : ∀ other ∈ before, ¬ needle statement <:+: other)
      (later : Picks text (before ++ [statement]) rest picked) :
      Picks text before (statement :: rest) (statement :: picked)

theorem Picks.sublist (h : Picks text before statements picked) : picked.Sublist statements := by
  induction h with
  | nil => exact .slnil
  | skip present later ih => exact ih.cons _
  | pick absent new later ih => exact ih.cons_cons _

theorem Picks.present (h : Picks text before statements picked) (asked : statement ∈ statements) :
    needle statement <:+: text ∨ ∃ other ∈ before ++ picked, needle statement <:+: other := by
  induction h with
  | nil => cases asked
  | skip present later ih =>
      rcases List.mem_cons.1 asked with rfl | asked
      · exact present.imp_right fun ⟨other, member, found⟩ =>
          ⟨other, List.mem_append_left _ member, found⟩
      · exact ih asked
  | @pick first before rest picked absent new later ih =>
      rcases List.mem_cons.1 asked with rfl | asked
      · exact .inr ⟨statement, by simp, needle_isInfix statement⟩
      · simpa using ih asked

theorem picks_nil (h : ∀ statement ∈ statements, needle statement <:+: text) :
    Picks text before statements [] := by
  induction statements with
  | nil => exact .nil
  | cons statement rest ih =>
      obtain ⟨here, later⟩ := List.forall_mem_cons.1 h
      exact .skip (.inl here) (ih later)

theorem exists_picks (text : Text) (before statements : List Text) :
    ∃ picked, Picks text before statements picked := by
  induction statements generalizing before with
  | nil => exact ⟨[], .nil⟩
  | cons statement rest ih =>
      by_cases present : needle statement <:+: text ∨ ∃ other ∈ before, needle statement <:+: other
      · obtain ⟨picked, later⟩ := ih before
        exact ⟨picked, .skip present later⟩
      · obtain ⟨picked, later⟩ := ih (before ++ [statement])
        rw [not_or] at present
        exact ⟨statement :: picked, .pick present.1 (by simpa using present.2) later⟩

theorem foldl_of_picks (plain : ∀ statement ∈ statements, statement.OneLine)
    (h : Picks text before statements picked) :
    statements.foldl (fun inserted statement =>
      if Text.occursIn (needle statement) (extended text inserted) then inserted
      else inserted ++ [statement]) before = before ++ picked := by
  induction h with
  | nil => rw [List.foldl_nil, List.append_nil]
  | skip present later ih =>
      obtain ⟨here, others⟩ := List.forall_mem_cons.1 plain
      have found := (infix_extended_iff (oneLine_needle_of_oneLine here) _).2 present
      rw [List.foldl_cons, if_pos (Text.occursIn_iff_infix.2 found), ih others]
  | @pick statement before rest picked absent new later ih =>
      obtain ⟨here, others⟩ := List.forall_mem_cons.1 plain
      -- a needle reaches over no seam between the text and what was inserted
      have missing : ¬ needle statement <:+: extended text before := by
        rw [infix_extended_iff (oneLine_needle_of_oneLine here), not_or]
        exact ⟨absent, by simpa using new⟩
      rw [List.foldl_cons, if_neg (mt Text.occursIn_iff_infix.1 missing), ih others,
        List.append_assoc, List.singleton_append]

theorem inserted_eq_iff (plain : ∀ statement ∈ statements, statement.OneLine) :
    (insert text statements).2 = picked ↔ Picks text [] statements picked := by
  have selected {picked : List Text} (h : Picks text [] statements picked) :
      (insert text statements).2 = picked := foldl_of_picks plain h
  constructor
  · rintro rfl
    obtain ⟨picked, h⟩ := exists_picks text [] statements
    rwa [selected h]
  · exact selected

theorem insert_of_present (plain : ∀ statement ∈ statements, statement.OneLine)
    (h : ∀ statement ∈ statements, needle statement <:+: text) :
    insert text statements = (text, []) := by
  have none_new := (inserted_eq_iff plain).2 (picks_nil h)
  exact Prod.ext (insert_of_none text statements none_new) none_new

theorem infix_insert_of_mem (plain : ∀ statement ∈ statements, statement.OneLine)
    (asked : statement ∈ statements) : needle statement <:+: (insert text statements).1 := by
  have picks := (inserted_eq_iff plain).1 (rfl : (insert text statements).2 = _)
  exact (infix_extended_iff (oneLine_needle_of_oneLine (plain _ asked)) _).2 (picks.present asked)

theorem insert_settles (text : Text) (plain : ∀ statement ∈ statements, statement.OneLine) :
    (∀ statement ∈ statements, needle statement <:+: (insert text statements).1) ∧
    ∀ again, again.Perm statements →
      insert (insert text statements).1 again = ((insert text statements).1, []) := by
  refine ⟨fun statement => infix_insert_of_mem plain, fun again same => ?_⟩
  refine insert_of_present (fun other asked => plain other (same.subset asked)) fun other asked => ?_
  exact infix_insert_of_mem plain (same.subset asked)

theorem insert_settles_returning :
    let text : Text := "import a from 'a';\r".toList
    let statements : List Text := ["import c from 'c';", "import c", "import d", "import c from 'c'"]
    let result := (insert text statements).1
    LineEnding.ofText text = .lf ∧ LineEnding.ofText result = .crlf ∧
      (∀ statement ∈ statements, statement.OneLine ∧ needle statement <:+: result) ∧
      insert result statements.reverse = (result, []) := by
  intro text statements result
  have plain : ∀ statement ∈ statements, statement.OneLine := by decide +kernel
  obtain ⟨present, idle⟩ := insert_settles text plain
  exact ⟨by decide +kernel, by decide +kernel,
    fun statement asked => ⟨plain statement asked, present statement asked⟩,
    idle _ (List.reverse_perm statements)⟩

structure Buffer where
  lines : List Text
  /-- Where the next statement goes. -/
  index : Nat
  inserted : List Text

def Buffer.step (ending : LineEnding) (buffer : Buffer) (statement : Text) : Buffer :=
  if Text.occursIn (needle statement) (ending.join buffer.lines) then buffer
  else ⟨buffer.lines.insertIdx buffer.index statement, buffer.index + 1,
    buffer.inserted ++ [statement]⟩

def spliced (lines inserted : List Text) : List Text :=
  lines.take (endIndex lines) ++ inserted ++ lines.drop (endIndex lines)

def Buffer.ofSplice (lines inserted : List Text) : Buffer where
  lines := spliced lines inserted
  index := endIndex lines + inserted.length
  inserted := inserted

theorem insertIdx_length (above below : List Text) (line : Text) :
    (above ++ below).insertIdx above.length line = above ++ line :: below := by
  induction above with
  | nil => rfl
  | cons first above ih =>
      rw [List.cons_append, List.length_cons, List.insertIdx_succ_cons, ih, List.cons_append]

theorem insertIdx_spliced (lines inserted : List Text) (statement : Text) :
    (spliced lines inserted).insertIdx (endIndex lines + inserted.length) statement =
      spliced lines (inserted ++ [statement]) := by
  have within : endIndex lines ≤ lines.length := (endIndex_eq_iff.1 rfl).le_length
  have length : endIndex lines + inserted.length =
      (lines.take (endIndex lines) ++ inserted).length := by
    rw [List.length_append, List.length_take_of_le within]
  rw [spliced, spliced, length, insertIdx_length]
  simp

theorem Buffer.step_ofSplice (ending : LineEnding) (lines inserted : List Text) (statement : Text) :
    (ofSplice lines inserted).step ending statement =
      ofSplice lines (if Text.occursIn (needle statement) (ending.join (spliced lines inserted))
        then inserted else inserted ++ [statement]) := by
  by_cases present : Text.occursIn (needle statement) (ending.join (spliced lines inserted)) = true
  · rw [if_pos present]
    exact if_pos present
  · rw [if_neg present]
    refine (if_neg present).trans ?_
    simp only [ofSplice, insertIdx_spliced, List.length_append, List.length_singleton, Nat.add_assoc]

theorem Buffer.foldl_ofSplice (ending : LineEnding) (lines inserted statements : List Text) :
    statements.foldl (step ending) (ofSplice lines inserted) =
      ofSplice lines (statements.foldl (fun inserted statement =>
        if Text.occursIn (needle statement) (ending.join (spliced lines inserted)) then inserted
        else inserted ++ [statement]) inserted) := by
  induction statements generalizing inserted with
  | nil => rfl
  | cons statement rest ih => rw [List.foldl_cons, List.foldl_cons, step_ofSplice, ih]

theorem not_infix_of_mem_spliced {line : Text} {ending : LineEnding}
    (plain : ∀ statement ∈ picked, statement.OneLine)
    (member : line ∈ spliced (ending.split text) picked) : ¬ ending.text <:+: line := by
  rcases List.mem_append.1 member with member | below
  · rcases List.mem_append.1 member with above | new
    · exact Text.not_infix_of_mem_splitOn ending.text_ne_nil (List.mem_of_mem_take above)
    · exact (plain line new).whole ending
  · exact Text.not_infix_of_mem_splitOn ending.text_ne_nil (List.mem_of_mem_drop below)

theorem split_spliced (plain : ∀ statement ∈ picked, statement.OneLine) (text : Text)
    (ending : LineEnding) :
    ending.split (ending.join (spliced (ending.split text) picked)) =
      spliced (ending.split text) picked := by
  refine LineEnding.split_join (fun none_left => ?_) fun line => not_infix_of_mem_spliced plain
  simp only [spliced, List.append_eq_nil_iff] at none_left
  have whole := List.take_append_drop (endIndex (ending.split text)) (ending.split text)
  rw [none_left.1.1, none_left.2] at whole
  exact ending.split_ne_nil text whole.symm

theorem insert_splices_once (text : Text) (plain : ∀ statement ∈ statements, statement.OneLine) :
    let ending := LineEnding.ofText text
    let lines := ending.split text
    let inserted := (insert text statements).2
    statements.foldl (Buffer.step ending) ⟨lines, endIndex lines, []⟩ =
      ⟨spliced lines inserted, endIndex lines + inserted.length, inserted⟩ ∧
    (insert text statements).1 = ending.join (spliced lines inserted) ∧
    ending.split (insert text statements).1 = spliced lines inserted ∧
    (∀ picked, inserted = picked ↔ Picks text [] statements picked) ∧
    inserted.Sublist statements ∧
    (inserted = [] → (insert text statements).1 = text) := by
  intro ending lines inserted
  have picks : Picks text [] statements inserted := (inserted_eq_iff plain).1 rfl
  have start : (⟨lines, endIndex lines, []⟩ : Buffer) = .ofSplice lines [] := by
    simp [Buffer.ofSplice, spliced]
  refine ⟨?_, rfl, ?_, fun picked => inserted_eq_iff plain, picks.sublist, insert_of_none text _⟩
  · rw [start, Buffer.foldl_ofSplice]
    rfl
  · exact split_spliced (fun statement member => plain _ (picks.sublist.subset member)) text ending

theorem insert_splices_once_contained :
    let text : Text := "// a\r\nimport \x7b\r\n  b,\r\n\x7d from 'b';\r\n\r\nf();".toList
    let statements : List Text :=
      ["import c from 'c';", "import c from 'c'", "import \x7b", "import d from 'd';", ";"]
    (∀ statement ∈ statements, statement.OneLine) ∧
      (insert text statements).2 = ["import c from 'c';".toList, "import d from 'd';".toList] ∧
      LineEnding.crlf.split (insert text statements).1 =
        ["// a".toList, "import \x7b".toList, "  b,".toList, "\x7d from 'b';".toList,
          "import c from 'c';".toList, "import d from 'd';".toList, [], "f();".toList] := by
  intro text statements
  have plain : ∀ statement ∈ statements, statement.OneLine := by decide +kernel
  have crlf : LineEnding.ofText text = .crlf := by decide +kernel
  obtain ⟨_, _, split, _⟩ := insert_splices_once text plain
  rw [crlf] at split
  rw [split]
  exact ⟨plain, by decide +kernel, by decide +kernel⟩

end ImportBlock

end DiagnosticRepair
