import DiagnosticRepair.Proofs.Source.Widening
import DiagnosticRepair.Source.TestImports

namespace DiagnosticRepair

namespace Text

variable {separator text : Text}

theorem splitOn_of_absent {c : Char} (member : c ∈ separator) (absent : c ∉ text) :
    splitOn separator text = [text] := by
  induction text with
  | nil => rfl
  | cons d rest ih =>
      have apart : separator.isPrefixOf (d :: rest) = false := by
        rw [Bool.eq_false_iff, ne_eq, List.isPrefixOf_iff_prefix]
        exact fun starts => absent (starts.subset member)
      rw [List.mem_cons, not_or] at absent
      rw [splitOn_cons_of_not_start apart, ih absent.2]
      rfl

theorem after?_of_absent {start : Text} {c : Char} (member : c ∈ start) (absent : c ∉ text) :
    after? start text = none := by
  unfold after?
  rw [if_neg]
  rw [List.isPrefixOf_iff_prefix]
  exact fun starts => absent (starts.subset member)

theorem trim_of_visible (visible : ∀ c ∈ text, isBlank c = false) : trim text = text := by
  cases text with
  | nil => rfl
  | cons c rest =>
      rcases List.eq_nil_or_concat (c :: rest) with none | ⟨front, d, split⟩
      · cases none
      · rw [List.concat_eq_append] at split
        exact trim_of_ends split (visible c (List.mem_cons_self ..))
          (visible d (by rw [split]; simp))

end Text

namespace LibraryImport

open TestImports (Check)

variable {text symbol : Text}

/-- What stands between two commas as a name of its own: an identifier of any script. -/
structure IsName (symbol : Text) : Prop where
  some_char : symbol ≠ []
  visible : ∀ c ∈ symbol, Text.isBlank c = false
  undivided : ',' ∉ symbol
  opens : openBrace ∉ symbol
  closes : closeBrace ∉ symbol

theorem isName_of_nameChars (some_char : symbol ≠ [])
    (named : ∀ c ∈ symbol, Text.isNameChar c = true) : IsName symbol := by
  have apart : (',' :: openBrace :: closeBrace :: Text.blanks).any Text.isNameChar = false := by
    decide +kernel
  have absent : ∀ c ∈ ',' :: openBrace :: closeBrace :: Text.blanks, c ∉ symbol := by
    intro c mark member
    exact List.any_eq_false.1 apart c mark (named c member)
  refine ⟨some_char, fun c member => ?_, absent _ (by simp), absent _ (by simp), absent _ (by simp)⟩
  rw [Text.isBlank, Bool.eq_false_iff, ne_eq, List.contains_iff_mem]
  exact fun blank => absent c (by simp [blank]) member

theorem isName_screen : IsName "screen" :=
  isName_of_nameChars (by decide) (List.all_eq_true.1 (by decide))

theorem isName_render : IsName "render" :=
  isName_of_nameChars (by decide) (List.all_eq_true.1 (by decide))

theorem boundNames_of_isName (name : IsName symbol) : boundNames symbol = [symbol, symbol] := by
  have space : ' ' ∉ symbol := by
    intro member
    have blank := name.visible ' ' member
    revert blank
    decide
  have trimmed := Text.trim_of_visible name.visible
  have modifier : Text.after? "type ".toList symbol = none := Text.after?_of_absent (by simp) space
  have parts : Text.splitOn " as ".toList symbol = [symbol] := Text.splitOn_of_absent (by simp) space
  unfold boundNames
  rw [trimmed]
  simp only [modifier, Option.getD_none, trimmed, parts]
  rw [if_neg]
  · simp [trimmed]
  · simpa using name.some_char

theorem mem_bindings_widen (name : IsName symbol) (found : LibraryImport) (other : Text) :
    other ∈ bindings (found.widen symbol).names ↔ other ∈ bindings found.names ∨ other = symbol := by
  rw [bindings_widen name.undivided, boundNames_of_isName name, List.mem_append]
  simp

theorem closeBrace_not_mem_widen (name : IsName symbol) {found : LibraryImport}
    (closes : closeBrace ∉ found.names) : closeBrace ∉ (found.widen symbol).names := by
  intro member
  rcases mem_widen member with old | new | comma | blank
  · exact closes old
  · exact name.closes new
  · exact absurd comma (by decide)
  · exact absurd blank (by decide)

theorem step_widens_exactly (name : IsName symbol) (usage text description : Text)
    (done : List Text) :
    let state := Check.step (text, done) ⟨description, addIfUsed symbol usage⟩
    (state = (text, done) ∨ ∃ found names, find? text = some found ∧ Stands text found ∧
      state = (found.before ++ found.opening ++ names ++ found.closing ++ found.after,
        done ++ [description]) ∧
      usage <:+: found.before ++ found.after ∧ symbol ∉ bindings found.names ∧
      closeBrace ∉ names ∧
      ∀ other, other ∈ bindings names ↔ other ∈ bindings found.names ∨ other = symbol) ∧
    (state = (text, done) ↔ ∀ found, find? text = some found →
      symbol ∈ bindings found.names ∨ ¬ usage <:+: found.before ++ found.after) := by
  intro state
  cases added : addIfUsed symbol usage text with
  | none =>
      have idle : state = (text, done) := by
        simp only [state, Check.step, added]
      refine ⟨.inl idle, iff_of_true idle fun found first => ?_⟩
      refine (addIfUsed_eq_none_iff.1 added found first).imp_right fun unused => ?_
      rwa [← Text.occursIn_iff_infix, Bool.not_eq_true]
  | some widened =>
      have mended : state = (widened, done ++ [description]) := by
        simp only [state, Check.step, added]
      obtain ⟨found, first, absent, used, rfl⟩ := addIfUsed_eq_some_iff.1 added
      have stands := (find?_eq_some_iff.1 first).1
      have used : usage <:+: found.before ++ found.after := Text.occursIn_iff_infix.1 used
      refine ⟨.inr ⟨found, (found.widen symbol).names, first, stands, mended, used, absent,
        closeBrace_not_mem_widen name stands.names, mem_bindings_widen name found⟩, ?_⟩
      refine iff_of_false (fun idle => ?_) fun idle => ?_
      · rw [mended] at idle
        simpa using congrArg Prod.snd idle
      · exact (idle found first).elim absent fun unused => unused used

def queryImport : Text :=
  Text.join ['\n'] ["import \x7b", "  type Queries,", "  within as inside,",
    "\x7d from '@testing-library/react';", "screen.debug();", ""]

theorem step_widens_exactly_query :
    let state := Check.step (queryImport, []) ⟨"added", addIfUsed "screen" "screen."⟩
    IsName "screen" ∧ state.2 = ["added".toList] ∧ ∃ found names, find? queryImport = some found ∧
      state.1 = found.before ++ found.opening ++ names ++ found.closing ++ found.after ∧
      ∀ other, other ∈ bindings names ↔
        other ∈ ["Queries".toList, "Queries".toList, "inside".toList, "within".toList] ∨
          other = "screen".toList := by
  intro state
  have reported : state.2 = ["added".toList] := by decide +kernel
  have listed : (find? queryImport).map (bindings ·.names) =
      some ["Queries".toList, "Queries".toList, "inside".toList, "within".toList] := by
    decide +kernel
  refine ⟨isName_screen, reported, ?_⟩
  rcases (step_widens_exactly isName_screen "screen." queryImport "added" []).1 with idle | widened
  · exact absurd (reported.symm.trans (congrArg Prod.snd idle)) (by simp)
  · obtain ⟨found, names, first, _, split, _, _, _, bound⟩ := widened
    rw [first] at listed
    exact ⟨found, names, first, congrArg Prod.fst split, (Option.some.inj listed) ▸ bound⟩

end LibraryImport

end DiagnosticRepair
