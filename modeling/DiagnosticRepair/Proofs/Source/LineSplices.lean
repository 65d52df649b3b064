import DiagnosticRepair.Proofs.Source.Directives
import DiagnosticRepair.Proofs.Source.Markup

namespace DiagnosticRepair.TestImports

variable {text statement : Text} {mend : Text → Option Text} {index : List Text → Nat}

/-- `out` has the lines of `text`, as that ends them, and one more between them. -/
structure Splice (statement text out : Text) (above below : List Text) : Prop where
  lines : (LineEnding.ofText text).split text = above ++ below
  joined : out = (LineEnding.ofText text).join (above ++ statement :: below)
  spliced : (LineEnding.ofText text).split out = above ++ statement :: below

structure StableSplice (mend : Text → Option Text) (statement text : Text) : Prop where
  once : ∀ out, mend text = some out → ∃ above below, Splice statement text out above below
  settled : mend ((mend text).getD text) = none

theorem splice_insertLine (plain : statement.OneLine) (text : Text) (index : List Text → Nat) :
    ∃ above below, Splice statement text (insertLine text statement index) above below := by
  let lines := (LineEnding.ofText text).split text
  refine ⟨lines.take (index lines), lines.drop (index lines),
    (List.take_append_drop (index lines) lines).symm, rfl, ?_⟩
  -- the lines are read back, as no line has an end inside it
  refine LineEnding.split_join (by simp) fun line member => ?_
  rcases List.mem_append.1 member with above | member
  · exact LineEnding.whole_of_mem_split (List.mem_of_mem_take above)
  · rcases List.mem_cons.1 member with rfl | below
    · exact plain.whole _
    · exact LineEnding.whole_of_mem_split (List.mem_of_mem_drop below)

theorem stableSplice_of_insertLine (plain : statement.OneLine)
    (inserts : ∀ {out}, mend text = some out → out = insertLine text statement index)
    (sees : mend (insertLine text statement index) = none) : StableSplice mend statement text where
  once := by
    intro out mended
    rw [inserts mended]
    exact splice_insertLine plain text index
  settled := by
    cases mended : mend text with
    | none => exact mended
    | some out => exact inserts mended ▸ sees

theorem addMatchers_ne_none_iff : addMatchers text ≠ none ↔
    (∃ matcher ∈ Conventions.elementMatchers, matcher <:+: text) ∧
      ¬ "jest-dom".toList <:+: text := by
  have uses_iff : usesMatcher text = true ↔
      ∃ matcher ∈ Conventions.elementMatchers, matcher <:+: text := by
    simp only [usesMatcher, List.any_eq_true, Text.occursIn_iff_infix]
  rw [← uses_iff, ← Text.occursIn_iff_infix]
  unfold addMatchers
  cases usesMatcher text <;> cases Text.occursIn "jest-dom".toList text <;> simp

theorem line_checks_stable (text : Text) :
    StableSplice addReact Conventions.reactImport text ∧
    StableSplice addMatchers Conventions.matcherImport text ∧
    (addReact text ≠ none ↔
      (∃ before, TagBehind before text) ∧ ∀ before, ¬ ReactBehind before text) ∧
    (addMatchers text ≠ none ↔
      (∃ matcher ∈ Conventions.elementMatchers, matcher <:+: text) ∧
        ¬ "jest-dom".toList <:+: text) := by
  have react_seen : addReact (insertLine text Conventions.reactImport directiveCount) = none :=
    addReact_eq_none_iff.2 (.inr (hasReactImport_insertLine_reactImport text directiveCount))
  exact ⟨stableSplice_of_insertLine oneLine_reactImport eq_of_addReact react_seen,
    stableSplice_of_insertLine oneLine_matcherImport eq_of_addMatchers
      (addMatchers_insertLine_matcherImport text ImportBlock.endIndex),
    addReact_ne_none_iff, addMatchers_ne_none_iff⟩

example : addReact "/// <a/>\r".toList = some "/// <a/>\r\nimport React from 'react';".toList := by
  decide +kernel

end DiagnosticRepair.TestImports
