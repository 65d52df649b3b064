import DiagnosticRepair.Proofs.Source.Directives
import DiagnosticRepair.Proofs.Source.Markup

namespace DiagnosticRepair.TestImports

open LibraryImport (Closed)

variable {text before words : Text}

def directivesOf (text : Text) : Text :=
  linesAbove text directiveCount

def codeOf (text : Text) : Text :=
  linesBelow text directiveCount

def Above (stands : Text → Text → Prop) (text : Text) : Prop :=
  ∃ before, before.length < (directivesOf text).length ∧ stands before text

theorem directives_cases (text : Text) : text = directivesOf text ++ codeOf text ∨
    directivesOf text = text ++ (LineEnding.ofText text).text ∧ codeOf text = [] := by
  rcases insertLine_cases text [] directiveCount with ⟨split, _⟩ | ⟨all, none, _⟩
  · exact .inl split
  · exact .inr ⟨all, none⟩

theorem directivesOf_ahead (text : Text) :
    directivesOf text <+: text ++ (LineEnding.ofText text).text := by
  rcases directives_cases text with split | ⟨all, _⟩
  · exact List.IsPrefix.trans ⟨_, split.symm⟩ (List.prefix_append ..)
  · exact all ▸ List.prefix_rfl

theorem exists_stands_iff {stands : Text → Text → Prop} {above below ending : Text}
    (cut : text = above ++ below ∨ above = text ++ ending ∧ below = []) (some_end : ending ≠ [])
    (ahead : ∀ before text, stands before text → before <+: text)
    (shift : ∀ before, stands (above ++ before) (above ++ below) ↔ stands before below)
    (empty : ∀ before, ¬ stands before []) :
    (∃ before, stands before text) ↔
      (∃ before, before.length < above.length ∧ stands before text) ∨
        ∃ before, stands before below := by
  rcases cut with rfl | ⟨rfl, rfl⟩
  · constructor
    · rintro ⟨before, here⟩
      by_cases inside : before.length < above.length
      · exact .inl ⟨before, inside, here⟩
      · obtain ⟨behind, rfl⟩ := List.prefix_of_prefix_length_le (List.prefix_append ..)
          (ahead before _ here) (Nat.le_of_not_lt inside)
        exact .inr ⟨behind, (shift behind).1 here⟩
    · rintro (⟨before, _, here⟩ | ⟨behind, here⟩)
      · exact ⟨before, here⟩
      · exact ⟨above ++ behind, (shift behind).2 here⟩
  · -- where all lines are directives, their last end is longer than the text
    have longer : text.length < (text ++ ending).length := by
      simpa using List.length_pos_iff.2 some_end
    constructor
    · rintro ⟨before, here⟩
      exact .inl ⟨before, Nat.lt_of_le_of_lt (ahead before text here).length_le longer, here⟩
    · rintro (⟨before, _, here⟩ | ⟨behind, here⟩)
      · exact ⟨before, here⟩
      · exact absurd here (empty behind)

theorem Tag.ne_nil {tag : Text} (isTag : Tag tag) : tag ≠ [] := by
  cases isTag
  simp

theorem ReactWords.exists_cons (isImport : ReactWords words) :
    ∃ c more, words = c :: more ∧ c ≠ '/' := by
  have blank_ne : ∀ {lead : Text} {c : Char}, Text.allBlank (c :: lead) = true → c ≠ '/' := by
    rintro lead _ blank rfl
    exact absurd (List.all_eq_true.1 blank '/' (by simp)) (by decide)
  cases isImport with
  | @named lead gap blank apart =>
      cases lead with
      | nil => exact ⟨'i', _, rfl, by decide⟩
      | cons c lead => exact ⟨c, _, rfl, blank_ne blank⟩
  | @whole lead gap gap' gap'' blank apart apart' apart'' =>
      cases lead with
      | nil => exact ⟨'i', _, rfl, by decide⟩
      | cons c lead => exact ⟨c, _, rfl, blank_ne blank⟩

theorem exists_tag_iff (text : Text) : (∃ before, TagBehind before text) ↔
    Above TagBehind text ∨ ∃ before, TagBehind before (codeOf text) := by
  refine exists_stands_iff (directives_cases text) (LineEnding.text_ne_nil _) ?_ ?_ ?_
  · rintro before _ ⟨tag, after, _, rfl⟩
    exact List.prefix_append ..
  · intro before
    unfold TagBehind
    simp only [List.append_assoc, List.append_cancel_left_eq]
  · rintro before ⟨tag, after, isTag, split⟩
    exact isTag.ne_nil (by simp_all)

theorem closed_append_iff {above : Text} (closed : Closed above) :
    Closed (above ++ before) ↔ Closed before := by
  refine ⟨closed_of_append, ?_⟩
  rintro (rfl | feed)
  · rwa [List.append_nil]
  · exact .inr (by rw [List.getLast?_append, feed, Option.some_or])

theorem exists_react_iff (text : Text) : (∃ before, ReactBehind before text) ↔
    Above ReactBehind text ∨ ∃ before, ReactBehind before (codeOf text) := by
  refine exists_stands_iff (directives_cases text) (LineEnding.text_ne_nil _) ?_ ?_ ?_
  · rintro before _ ⟨_, words, rest, _, _, rfl⟩
    exact List.prefix_append ..
  · intro before
    unfold ReactBehind
    have closed : Closed (directivesOf text) := closed_linesAbove text directiveCount
    rw [closed_append_iff closed]
    simp only [List.append_assoc, List.append_cancel_left_eq]
  · rintro before ⟨_, words, rest, isImport, _, split⟩
    obtain ⟨c, more, rfl, _⟩ := isImport.exists_cons
    simp at split

theorem directives_directiveCount (text : Text) :
    Directives (directiveCount ((LineEnding.ofText text).split text)) text := by
  intro line member
  have run := List.prefix_iff_eq_take.1
    (List.takeWhile_prefix ("///".toList.isPrefixOf ·) (l := (LineEnding.ofText text).split text))
  have member : line ∈ ((LineEnding.ofText text).split text).takeWhile
      ("///".toList.isPrefixOf ·) := run ▸ member
  exact List.isPrefixOf_iff_prefix.1 (List.all_eq_true.1 List.all_takeWhile line member)

theorem directive_of_closed {behind : Text} (feeds : LineEnding.ofText text = .lf)
    (closed : Closed before) (cut : directivesOf text = before ++ behind) (some_behind : behind ≠ []) :
    "///".toList <+: behind := by
  have ended : before = [] ∨ (LineEnding.ofText text).text <:+ before := by
    rw [feeds]
    refine closed.imp_right fun feed => ?_
    obtain ⟨front, rfl⟩ := List.getLast?_eq_some_iff.1 feed
    exact List.suffix_append ..
  exact LineEnding.starts_of_append (fun _ => whole_of_mem_heading) (directives_directiveCount text)
    ended cut some_behind

theorem crlf_of_above_react (above : Above ReactBehind text) : LineEnding.ofText text = .crlf := by
  cases ending : LineEnding.ofText text with
  | crlf => rfl
  | lf =>
      obtain ⟨before, short, closed, words, rest, isImport, _, split⟩ := above
      have joined : text ++ (LineEnding.ofText text).text =
          before ++ (words ++ rest ++ (LineEnding.ofText text).text) := by
        rw [← List.append_assoc, ← split]
      have whole := directivesOf_ahead text
      rw [joined] at whole
      obtain ⟨behind, cut⟩ := List.prefix_of_prefix_length_le (List.prefix_append ..) whole
        (Nat.le_of_lt short)
      have some_behind : behind ≠ [] := by
        rintro rfl
        rw [← cut, List.append_nil] at short
        exact Nat.lt_irrefl _ short
      -- the import would start with the slashes of a directive
      have starts := directive_of_closed ending closed cut.symm some_behind
      rw [← cut, List.prefix_append_right_inj] at whole
      obtain ⟨c, more, rfl, apart⟩ := isImport.exists_cons
      exact absurd (List.cons_prefix_cons.1 (starts.trans whole)).1.symm apart

/-- A tag in the directives counts for code that has none. -/
structure TagMisread (text : Text) : Prop where
  above : Above TagBehind text
  plain : ∀ before, ¬ TagBehind before (codeOf text)
  lacking : ∀ before, ¬ ReactBehind before text

/-- An import of `React` in the directives counts for code that lacks it, where a directive goes on
behind a line feed. -/
structure ImportMisread (text : Text) : Prop where
  crlf : LineEnding.ofText text = .crlf
  above : Above ReactBehind text
  tagged : ∃ before, TagBehind before (codeOf text)
  lacking : ∀ before, ¬ ReactBehind before (codeOf text)

theorem lacks_react_iff (text : Text) : (∀ before, ¬ ReactBehind before text) ↔
    ¬ Above ReactBehind text ∧ ∀ before, ¬ ReactBehind before (codeOf text) := by
  rw [← not_exists, exists_react_iff, not_or, not_exists]

theorem tagMisread_iff : TagMisread text ↔
    addReact text ≠ none ∧ ∀ before, ¬ TagBehind before (codeOf text) := by
  rw [addReact_ne_none_iff, exists_tag_iff]
  constructor
  · rintro ⟨above, plain, lacking⟩
    exact ⟨⟨.inl above, lacking⟩, plain⟩
  · rintro ⟨⟨above | ⟨before, code⟩, lacking⟩, plain⟩
    · exact ⟨above, plain, lacking⟩
    · exact absurd code (plain before)

theorem importMisread_iff : ImportMisread text ↔
    addReact (codeOf text) ≠ none ∧ addReact text = none := by
  rw [← Classical.not_not (a := addReact text = none), ← ne_eq, addReact_ne_none_iff,
    addReact_ne_none_iff, exists_tag_iff text, lacks_react_iff text]
  constructor
  · rintro ⟨_, above, tagged, lacking⟩
    exact ⟨⟨tagged, lacking⟩, fun given => given.2.1 above⟩
  · rintro ⟨⟨tagged, lacking⟩, kept⟩
    have above : Above ReactBehind text :=
      Classical.byContradiction fun none => kept ⟨.inr tagged, none, lacking⟩
    exact ⟨crlf_of_above_react above, above, tagged, lacking⟩

theorem addReact_codeOf_iff (text : Text) :
    ((addReact text ≠ none ↔ addReact (codeOf text) ≠ none) ↔
      ¬ TagMisread text ∧ ¬ ImportMisread text) ∧
    ((addReact text ≠ none ∧ ∀ before, ¬ TagBehind before (codeOf text)) ↔ TagMisread text) := by
  refine ⟨?_, tagMisread_iff.symm⟩
  rw [tagMisread_iff, importMisread_iff]
  constructor
  · intro same
    refine ⟨fun ⟨given, plain⟩ => ?_, fun ⟨given, kept⟩ => same.2 given kept⟩
    obtain ⟨before, tagged⟩ := (addReact_ne_none_iff.1 (same.1 given)).1
    exact plain before tagged
  · rintro ⟨tag_free, import_free⟩
    refine ⟨fun given => ?_, fun given kept => import_free ⟨given, kept⟩⟩
    have lacking := ((lacks_react_iff text).1 (addReact_ne_none_iff.1 given).2).2
    have tagged : ∃ before, TagBehind before (codeOf text) :=
      Classical.byContradiction fun none => tag_free ⟨given, not_exists.1 none⟩
    exact addReact_ne_none_iff.2 ⟨tagged, lacking⟩

def directiveTag : Text :=
  Text.join ['\n'] ["/// <reference types='node' />", "f();", ""]

theorem directiveTag_imported : codeOf directiveTag = "f();\n".toList ∧
    addReact (codeOf directiveTag) = none ∧ addReact directiveTag = some (Text.join ['\n']
      ["/// <reference types='node' />", "import React from 'react';", "f();", ""]) := by
  decide +kernel

end DiagnosticRepair.TestImports
