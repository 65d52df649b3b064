import DiagnosticRepair.Proofs.Source.ImportedNames
import DiagnosticRepair.Proofs.Source.TestImports

namespace DiagnosticRepair

namespace LibraryImport

variable {text above below line symbol name : Text} {found other : LibraryImport}

theorem length_after_lt (first : find? text = some found) :
    found.after.length < text.length := by
  obtain ⟨stands, _⟩ := find?_eq_some_iff.1 first
  obtain ⟨_, opening⟩ := exists_opening stands.opens
  rw [stands.cut, LibraryImport.text, opening]
  simp only [List.length_append, List.length_singleton]
  omega

def imports (text : Text) : List LibraryImport :=
  match _first : find? text with
  | none => []
  | some found => found :: imports found.after
termination_by text.length
decreasing_by exact length_after_lt _first

theorem imports_of_none (none_found : find? text = none) : imports text = [] := by
  rw [imports]
  split
  · rfl
  · rename_i first
    rw [none_found] at first
    cases first

theorem imports_of_some (first : find? text = some found) :
    imports text = found :: imports found.after := by
  rw [imports]
  split
  · rename_i none_found
    rw [first] at none_found
    cases none_found
  · rename_i same
    rw [first] at same
    rw [Option.some.inj same]

def boundIn (name text : Text) : Nat :=
  (imports text).countP fun found => (bindings found.names).contains name

theorem boundIn_of_none (none_found : find? text = none) (name : Text) : boundIn name text = 0 := by
  rw [boundIn, imports_of_none none_found, List.countP_nil]

theorem boundIn_of_some (first : find? text = some found) (name : Text) :
    boundIn name text =
      boundIn name found.after + if name ∈ bindings found.names then 1 else 0 := by
  rw [boundIn, boundIn, imports_of_some first, List.countP_cons]
  simp only [List.contains_iff_mem]

theorem boundIn_widen (first : find? text = some found) (plain : Plain symbol)
    (settled : ¬ found.Joins) (is_name : IsName symbol) (absent : symbol ∉ bindings found.names)
    (name : Text) : boundIn name (found.widen symbol).text =
      boundIn name text + if name = symbol then 1 else 0 := by
  have behind : (found.widen symbol).after = found.after := rfl
  rw [boundIn_of_some (find?_widen first plain settled), boundIn_of_some first, behind]
  simp only [mem_bindings_widen is_name]
  by_cases same : name = symbol
  · subst same
    simp [absent]
  · simp [same]

theorem isWord_of_isQuote {mark : Char} (quote : isQuote mark = true) :
    Text.isWord mark = false := by
  unfold isQuote at quote
  rw [Bool.or_eq_true, beq_iff_eq, beq_iff_eq] at quote
  rcases quote with rfl | rfl <;> decide

theorem stands_behind (h : Stands text found) (later : Stands found.after other) :
    Stands text { other with
      before := found.before ++ found.opening ++ found.names ++ found.closing ++ other.before } := by
  obtain ⟨mark, quote, last⟩ := getLast?_closing h.closes
  obtain ⟨apart, cut, opens, names, closes⟩ := later
  refine ⟨?_, ?_, opens, names, closes⟩
  · show (found.before ++ found.opening ++ found.names ++ found.closing ++
      other.before).getLast?.elim false Text.isWord = false
    rw [List.getLast?_append, List.getLast?_append, last]
    cases own : other.before.getLast? with
    | some c => simpa [own] using apart
    | none =>
        simpa using isWord_of_isQuote quote
  · rw [h.cut, LibraryImport.text, LibraryImport.text, cut, LibraryImport.text]
    simp

theorem after_of_moved {moved : LibraryImport} {inserted : Text} (cut : above ++ below = found.text)
    (cut' : above ++ (inserted ++ below) = moved.text)
    (start : moved.before.length = shift above.length inserted.length found.before.length)
    (opening : moved.opening = found.opening) (names : moved.names = found.names)
    (closing : moved.closing = found.closing) (whole : ¬ CutAt above.length found) :
    moved.after = found.after ∨ ∃ rest,
      above = found.before ++ found.opening ++ found.names ++ found.closing ++ rest ∧
        found.after = rest ++ below ∧ moved.after = rest ++ (inserted ++ below) := by
  rw [LibraryImport.text, opening, names, closing] at cut'
  unfold shift at start
  rcases below_or_above_of_not_cutAt cut whole with
    ⟨behind, rest, before, below_eq⟩ | ⟨ahead, rest, above_eq, after⟩
  · left
    rw [if_neg (Nat.not_lt.2 behind)] at start
    have split :
        above ++ inserted ++ rest ++ found.opening ++ found.names ++ found.closing ++ found.after =
          moved.before ++ found.opening ++ found.names ++ found.closing ++ moved.after := by
      rw [← cut', below_eq]
      simp
    refine (List.append_inj split ?_).2.symm
    rw [before] at start
    simp only [List.length_append] at start ⊢
    omega
  · right
    rw [if_pos ahead] at start
    refine ⟨rest, above_eq, after, ?_⟩
    rw [above_eq, List.append_assoc] at cut'
    refine (List.append_inj cut' ?_).2.symm
    simp only [List.length_append]
    omega

theorem boundIn_insert (inert : Inert line) (ending : LineEnding) (closed : Closed above)
    (whole : ∀ found, Stands (above ++ below) found → ¬ CutAt above.length found) (name : Text) :
    boundIn name (above ++ (line ++ ending.text ++ below)) = boundIn name (above ++ below) := by
  have breaks : Breaks ending.text := by cases ending <;> simp [Breaks, LineEnding.text]
  have ends : ending.text.getLast? = some '\n' := by cases ending <;> rfl
  induction size : above.length using Nat.strongRecOn generalizing above with
  | ind n ih =>
    cases before : find? (above ++ below) with
    | none =>
        rw [boundIn_of_none before,
          boundIn_of_none (find?_insert_of_none inert breaks ends closed before)]
    | some found =>
        have stands := (find?_eq_some_iff.1 before).1
        obtain ⟨moved, first, start, opening, names, closing, _⟩ :=
          find?_insert inert breaks ends closed before (whole found stands)
        have behind := after_of_moved stands.cut (find?_eq_some_iff.1 first).1.cut start opening
          names closing (whole found stands)
        rw [boundIn_of_some first, boundIn_of_some before, names]
        rcases behind with after | ⟨rest, above_eq, after, after'⟩
        · rw [after]
        · -- the line goes below the first import: what is behind that is shorter
          have closed_rest : Closed rest := TestImports.closed_of_append (above_eq ▸ closed)
          have shorter := congrArg List.length above_eq
          have later := ih rest.length ?_ closed_rest (fun other within cut => ?_) rfl
          · rw [after, after', later]
          · obtain ⟨_, opened⟩ := exists_opening stands.opens
            rw [opened] at shorter
            simp only [List.length_append, List.length_singleton] at shorter
            omega
          · rw [← after] at within
            refine whole _ (stands_behind stands within) ?_
            unfold CutAt at cut ⊢
            simp only [List.length_append] at cut shorter ⊢
            omega

theorem boundIn_append (inert : Inert line) (ending : LineEnding) (name text : Text) :
    boundIn name (text ++ (ending.text ++ line)) = boundIn name text := by
  have breaks : Breaks ending.text := by cases ending <;> simp [Breaks, LineEnding.text]
  induction size : text.length using Nat.strongRecOn generalizing text with
  | ind n ih =>
    cases before : find? text with
    | none =>
        rw [boundIn_of_none before, boundIn_of_none]
        rw [find?_append inert breaks, before, Option.map_none]
    | some found =>
        have first : find? (text ++ (ending.text ++ line)) =
            some { found with after := found.after ++ (ending.text ++ line) } := by
          rw [find?_append inert breaks, before, Option.map_some]
        have shorter := length_after_lt before
        rw [boundIn_of_some first, boundIn_of_some before,
          ih found.after.length (by omega) found.after rfl]

end LibraryImport

namespace TestImports

open LibraryImport (Importable Inert Stands boundIn)

variable {text line name : Text}

theorem boundIn_insertLine {index : List Text → Nat} (inert : Inert line)
    (whole : ∀ found, Stands text found → ¬ found.CutAt (linesAbove text index).length)
    (name : Text) : boundIn name (insertLine text line index) = boundIn name text := by
  rcases insertLine_cases text line index with ⟨split, inserted⟩ | ⟨_, _, inserted⟩
  · have whole' : ∀ found, Stands (linesAbove text index ++ linesBelow text index) found →
        ¬ found.CutAt (linesAbove text index).length := by
      rwa [← split]
    rw [inserted, LibraryImport.boundIn_insert inert (LineEnding.ofText text)
      (closed_linesAbove text index) whole', ← split]
  · rw [inserted, LibraryImport.boundIn_append inert]

theorem boundIn_addIfUsed {symbol : Text} (importable : Importable symbol)
    (is_name : LibraryImport.IsName symbol) (usage : Text)
    (calm : LibraryImport.addIfUsed symbol usage text ≠ none →
      ∀ found, LibraryImport.find? text = some found → ¬ found.Joins) (name : Text) :
    boundIn name ((LibraryImport.addIfUsed symbol usage text).getD text) = boundIn name text +
      if name = symbol ∧ LibraryImport.addIfUsed symbol usage text ≠ none then 1 else 0 := by
  cases added : LibraryImport.addIfUsed symbol usage text with
  | none => simp
  | some widened =>
      obtain ⟨found, first, absent, _, rfl⟩ := LibraryImport.addIfUsed_eq_some_iff.1 added
      have settled := calm (by simp [added]) found first
      rw [Option.getD_some,
        LibraryImport.boundIn_widen first importable.plain settled is_name absent name]
      simp

/-- Widening joins no lines, and no line is put inside an import. -/
structure Calm (text : Text) : Prop where
  widening : LacksName text → ∀ found, LibraryImport.find? text = some found → ¬ found.Joins
  react : addReact (buffer 2 text) ≠ none → ∀ found, Stands (buffer 2 text) found →
    ¬ found.CutAt (linesAbove (buffer 2 text) directiveCount).length
  matchers : addMatchers (buffer 3 text) ≠ none → ∀ found, Stands (buffer 3 text) found →
    ¬ found.CutAt (linesAbove (buffer 3 text) ImportBlock.endIndex).length

def addedNames (text : Text) : List Text :=
  (if LibraryImport.addIfUsed "screen" "screen." text = none then [] else ["screen".toList]) ++
    if LibraryImport.addIfUsed "render" "render(" (buffer 1 text) = none then []
    else ["render".toList]

theorem not_joins_buffer_one (calm : Calm text)
    (render : LibraryImport.addIfUsed "render" "render(" (buffer 1 text) ≠ none) :
    ∀ found, LibraryImport.find? (buffer 1 text) = some found → ¬ found.Joins := by
  rw [buffer_one] at render ⊢
  cases screen : LibraryImport.addIfUsed "screen".toList "screen.".toList text with
  | none =>
      rw [screen, Option.getD_none] at render
      exact calm.widening (.inr render)
  | some widened =>
      obtain ⟨found, first, _, _, rfl⟩ := LibraryImport.addIfUsed_eq_some_iff.1 screen
      have lacks : LacksName text := .inl (Option.ne_none_iff_exists'.2 ⟨_, screen⟩)
      have settled := calm.widening lacks found first
      intro again first'
      rw [Option.getD_some, LibraryImport.find?_widen first importable_screen.plain settled]
        at first'
      rw [← Option.some.inj first']
      exact LibraryImport.not_joins_widen importable_screen found

theorem ite_mem_append {first second name : Text} {p q : Prop} [Decidable p] [Decidable q]
    (apart : first ≠ second) :
    (if name ∈ (if p then [] else [first]) ++ (if q then [] else [second]) then 1 else 0) =
      (if name = first ∧ ¬ p then 1 else 0) + if name = second ∧ ¬ q then 1 else 0 := by
  by_cases own : name = first
  · subst own
    by_cases asked : p <;> by_cases asked' : q <;> simp [asked, asked', apart]
  · by_cases asked : p <;> by_cases asked' : q <;> simp [asked, asked', own]

theorem boundIn_buffer_two (calm : Calm text) (name : Text) : boundIn name (buffer 2 text) =
    boundIn name text + if name ∈ addedNames text then 1 else 0 := by
  have screen := boundIn_addIfUsed importable_screen LibraryImport.isName_screen "screen."
    (fun added => calm.widening (.inl added)) name
  have render := boundIn_addIfUsed importable_render LibraryImport.isName_render "render("
    (not_joins_buffer_one calm) name
  rw [← buffer_one] at screen
  rw [← buffer_two, screen] at render
  rw [render, addedNames, ite_mem_append (by decide), Nat.add_assoc]

theorem boundIn_fix (calm : Calm text) (name : Text) : boundIn name (fix text).1 =
    boundIn name text + if name ∈ addedNames text then 1 else 0 := by
  have after_react : boundIn name (buffer 3 text) = boundIn name (buffer 2 text) := by
    rw [buffer_three]
    cases inserted : addReact (buffer 2 text) with
    | none => rfl
    | some mended =>
        rw [Option.getD_some, eq_of_addReact inserted]
        exact boundIn_insertLine inert_reactImport (calm.react (by simp [inserted])) name
  rw [← boundIn_buffer_two calm, ← after_react, fix_fst]
  cases inserted : addMatchers (buffer 3 text) with
  | none => rfl
  | some mended =>
      rw [Option.getD_some, eq_of_addMatchers inserted]
      exact boundIn_insertLine inert_matcherImport (calm.matchers (by simp [inserted])) name

theorem bound_again_iff (text : Text) :
    (∀ symbol other, Stands text other → symbol ∈ LibraryImport.bindings other.names →
      ((∀ usage, LibraryImport.addIfUsed symbol usage text = none) ↔
        ∃ first, LibraryImport.find? text = some first ∧
          symbol ∈ LibraryImport.bindings first.names)) ∧
    (Calm text → ∀ name, 2 ≤ boundIn name (fix text).1 ↔
      2 ≤ boundIn name text ∨ 1 ≤ boundIn name text ∧ name ∈ addedNames text) := by
  refine ⟨fun symbol other stands listed => ?_, fun calm name => ?_⟩
  · cases first : LibraryImport.find? text with
    | none => exact absurd stands (LibraryImport.find?_eq_none_iff.1 first other)
    | some found =>
        constructor
        · intro idle
          have empty : Text.occursIn [] found.body = true := by
            rw [Text.occursIn_iff_infix]
            exact List.nil_infix
          rcases LibraryImport.addIfUsed_eq_none_iff.1 (idle []) found first with bound | unused
          · exact ⟨found, rfl, bound⟩
          · rw [empty] at unused
            cases unused
        · rintro ⟨_, same, bound⟩ usage
          refine LibraryImport.addIfUsed_eq_none_iff.2 fun again first' => .inl ?_
          rw [first, same] at first'
          rwa [← Option.some.inj first']
  · rw [boundIn_fix calm]
    by_cases added : name ∈ addedNames text
    · rw [if_pos added]
      simp only [added, and_true]
      omega
    · rw [if_neg added]
      simp only [added, and_false, or_false, Nat.add_zero]

def twoImports : Text :=
  Text.join ['\n'] ["import \x7b render \x7d from '@testing-library/react';",
    "import \x7b screen \x7d from '@testing-library/react';", "render(app);", "screen.debug();", ""]

def renderImport : LibraryImport where
  before := []
  opening := "import \x7b"
  names := " render "
  closing := "\x7d from '@testing-library/react'"
  after := Text.join ['\n'] [";", "import \x7b screen \x7d from '@testing-library/react';",
    "render(app);", "screen.debug();", ""]

def screenImport : LibraryImport where
  before := ";\n"
  opening := "import \x7b"
  names := " screen "
  closing := "\x7d from '@testing-library/react'"
  after := Text.join ['\n'] [";", "render(app);", "screen.debug();", ""]

theorem find?_twoImports : LibraryImport.find? twoImports = some renderImport := by
  decide +kernel

theorem find?_after_renderImport :
    LibraryImport.find? renderImport.after = some screenImport := by
  decide +kernel

theorem boundIn_twoImports : boundIn "screen" twoImports = 1 := by
  have last : LibraryImport.find? screenImport.after = none := by decide +kernel
  rw [LibraryImport.boundIn_of_some find?_twoImports,
    LibraryImport.boundIn_of_some find?_after_renderImport, LibraryImport.boundIn_of_none last]
  decide +kernel

theorem calm_twoImports : Calm twoImports where
  widening := by
    rintro - found first ⟨lost, -⟩
    rw [find?_twoImports] at first
    obtain rfl := Option.some.inj first
    revert lost
    decide +kernel
  react := fun inserted => absurd (by decide +kernel) inserted
  matchers := fun inserted => absurd (by decide +kernel) inserted

theorem stands_twoImports : Stands twoImports renderImport :=
  (LibraryImport.find?_eq_some_iff.1 find?_twoImports).1

theorem screen_mem_addedNames_twoImports : "screen".toList ∈ addedNames twoImports := by
  decide +kernel

theorem bound_again_iff_two : Stands twoImports renderImport ∧
      "render".toList ∈ LibraryImport.bindings renderImport.names ∧
      (∀ usage, LibraryImport.addIfUsed "render" usage twoImports = none) ∧
      Calm twoImports ∧ 2 ≤ boundIn "screen" (fix twoImports).1 := by
  have listed : "render".toList ∈ LibraryImport.bindings renderImport.names := by decide +kernel
  obtain ⟨once, twice⟩ := bound_again_iff twoImports
  refine ⟨stands_twoImports, listed, ?_, calm_twoImports, ?_⟩
  · exact (once _ renderImport stands_twoImports listed).2
      ⟨renderImport, find?_twoImports, listed⟩
  · exact (twice calm_twoImports "screen").2
      (.inr ⟨Nat.le_of_eq boundIn_twoImports.symm, screen_mem_addedNames_twoImports⟩)

theorem bound_again_second : ∃ other, Stands twoImports other ∧
    "screen".toList ∈ LibraryImport.bindings other.names ∧
    LibraryImport.addIfUsed "screen" "screen." twoImports ≠ none ∧
    boundIn "screen" twoImports = 1 ∧ boundIn "screen" (fix twoImports).1 = 2 := by
  have second : Stands renderImport.after screenImport :=
    (LibraryImport.find?_eq_some_iff.1 find?_after_renderImport).1
  refine ⟨_, LibraryImport.stands_behind stands_twoImports second, by decide +kernel,
    by decide +kernel, boundIn_twoImports, ?_⟩
  rw [boundIn_fix calm_twoImports, boundIn_twoImports, if_pos screen_mem_addedNames_twoImports]

end TestImports

end DiagnosticRepair
