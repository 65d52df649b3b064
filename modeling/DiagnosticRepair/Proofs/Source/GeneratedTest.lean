import DiagnosticRepair.Proofs.Path.Reading
import DiagnosticRepair.Proofs.Source.TestImports
import DiagnosticRepair.Component

namespace DiagnosticRepair

namespace Alias

def mark : Text :=
  "@/"

variable {text line first second : Text}

theorem mark_infix_of_quoted (h : quotedAliasFollows text = true) : mark <:+: text := by
  unfold quotedAliasFollows at h
  split at h
  · rename_i quote rest starts
    have behind : mark <:+: Text.trimStart text := by
      rw [starts]
      exact ⟨[quote], rest, rfl⟩
    exact behind.trans (List.dropWhile_suffix _).isInfix
  · cases h

theorem mark_infix_of_fromAlias {joined : Bool} (h : fromAlias joined line = true) :
    mark <:+: line := by
  induction line generalizing joined with
  | nil => cases h
  | cons c rest ih =>
      rw [fromAlias, Bool.or_eq_true, Bool.and_eq_true] at h
      rcases h with ⟨_, quoted⟩ | later
      · exact (mark_infix_of_quoted quoted).trans (List.drop_suffix _ _).isInfix
      · exact List.infix_cons_iff.2 (.inr (ih later))

theorem mark_infix_of_isAliasImport (h : isAliasImport line = true) : mark <:+: line := by
  rw [isAliasImport, Bool.or_eq_true] at h
  rcases h with clause | whole
  · exact mark_infix_of_fromAlias clause
  · rw [importsAlias, Bool.and_eq_true] at whole
    have behind : mark <:+: Text.trimStart line :=
      (mark_infix_of_quoted whole.2).trans (List.drop_suffix _ _).isInfix
    exact behind.trans (List.dropWhile_suffix _).isInfix

theorem resolve_of_not_infix (absent : ¬ mark <:+: text) (here : Location) (testFile root : Path)
    (table : List (Text × Text)) : resolve here text testFile root table = (text, []) := by
  have plain : ∀ relative, ∀ line ∈ LineEnding.lf.split text,
      resolveLine relative table line = ⟨line, []⟩ := by
    intro relative line member
    refine if_neg fun imports => absent ?_
    rw [← LineEnding.lf.join_split text]
    exact (Text.infix_join_lines_iff (by decide) (by decide) .lf _).2
      ⟨line, member, mark_infix_of_isAliasImport imports⟩
  unfold resolve
  simp only
  rw [List.map_congr_left (plain _), List.map_map, List.flatMap_map]
  have lines : (LineEnding.lf.split text).map ((·.line) ∘ fun line => Resolution.mk line []) =
      LineEnding.lf.split text := List.map_id _
  rw [lines, LineEnding.lf.join_split]
  simp

structure Free (text : Text) : Prop where
  starts : text.head? ≠ some '/'
  absent : ¬ mark <:+: text

theorem Free.append (h : Free first) (h' : Free second) : Free (first ++ second) := by
  constructor
  · cases first with
    | nil => exact h'.starts
    | cons c rest => exact h.starts
  · intro found
    rcases List.infix_append_iff_ne_nil.1 found with
      within | within | ⟨l₁, l₂, some₁, some₂, split, _, begins⟩
    · exact h.absent within
    · exact h'.absent within
    · have slash : l₂ = ['/'] := by
        cases l₁ with
        | nil => exact absurd rfl some₁
        | cons c l₁ =>
            have behind : ['/'] = l₁ ++ l₂ := (List.cons.inj split).2
            cases l₁ with
            | nil => exact behind.symm
            | cons d l₁ =>
                have none := (List.cons.inj behind).2
                exact absurd (List.append_eq_nil_iff.1 none.symm).2 some₂
      obtain ⟨rest, rfl⟩ := begins
      exact h'.starts (by rw [slash]; rfl)

theorem Free.join {lines : List Text} (h : ∀ line ∈ lines, Free line) :
    Free (Text.join ['\n'] lines) := by
  induction lines with
  | nil => exact ⟨by simp [Text.join], by simp [Text.join, mark]⟩
  | cons line more ih =>
      obtain ⟨first, others⟩ := List.forall_mem_cons.1 h
      cases more with
      | nil => rwa [Text.join_singleton]
      | cons next more =>
          rw [Text.join_cons_cons]
          exact (first.append ⟨by decide, by decide⟩).append (ih others)

theorem free_of_noSlash (h : '/' ∉ text) : Free text :=
  ⟨fun starts => h (List.mem_of_head? starts),
    fun found => h (found.subset (by decide))⟩

theorem free_iff : Free text ↔ text.head? ≠ some '/' ∧ Text.occursIn mark text = false := by
  rw [Bool.eq_false_iff, ne_eq (Text.occursIn _ _), Text.occursIn_iff_infix]
  exact ⟨fun free => ⟨free.starts, free.absent⟩, fun ⟨starts, absent⟩ => ⟨starts, absent⟩⟩

instance : DecidablePred Free :=
  fun _ => decidable_of_iff' _ free_iff

end Alias

theorem Path.stem_noSlash (path : Path) : '/' ∉ path.stem := by
  have name : '/' ∉ path.name := by
    unfold Path.name
    cases path.steps.getLast? with
    | none => exact List.not_mem_nil
    | some step => exact step.text_noSlash
  unfold stem FileName.stemAndSuffix
  simp only
  split
  · exact name
  · exact fun member => name (List.mem_of_mem_take member)

namespace Component

open Alias in
theorem free_testText {component : Component} (plain : '/' ∉ component.name) :
    Free component.testText := by
  have name : Free component.name := free_of_noSlash plain
  have stem : Free component.source.stem := free_of_noSlash (Path.stem_noSlash _)
  have imported : Free component.importedAs := by
    unfold importedAs
    split
    · exact name
    · exact (Free.append (by decide) name).append (by decide)
  apply Free.join
  simp only [List.forall_mem_cons, List.not_mem_nil, false_implies, implies_true, and_true]
  refine ⟨by decide, by decide, by decide, ?_, by decide, ?_, by decide, ?_, by decide, by decide,
    by decide, ?_, by decide, by decide, by decide, by decide⟩
  · exact (((Free.append (by decide) imported).append (by decide)).append stem).append (by decide)
  · exact (Free.append (by decide) name).append (by decide)
  · exact (Free.append (by decide) name).append (by decide)
  · exact (Free.append (by decide) name).append (by decide)

end Component

theorem Alias.resolve_testText {component : Component} (plain : '/' ∉ component.name)
    (here : Location) (testFile root : Path) (table : List (Text × Text)) :
    resolve here component.testText testFile root table = (component.testText, []) :=
  resolve_of_not_infix (Component.free_testText plain).absent here testFile root table

namespace LibraryImport

variable {rest : Text}

def generated (rest : Text) : LibraryImport where
  before := []
  opening := "import \x7b"
  names := " render, screen "
  closing := "\x7d from '@testing-library/react'"
  after := rest

theorem cutSource?_generated (rest : Text) :
    cutSource? (" from '@testing-library/react'".toList ++ rest) =
      some (" from '@testing-library/react'".toList, rest) := by
  have clause : IsSource "from '@testing-library/react'".toList :=
    ⟨[' '], '\'', '\'', rfl, rfl, rfl, rfl⟩
  have reads : afterSource? ("from '@testing-library/react'".toList ++ rest) = some rest :=
    afterSource?_eq_some_iff.2 ⟨_, clause, rfl⟩
  obtain ⟨clause', _, split, cut⟩ := cutSource?_cons_of_source reads
  have whole : "from '@testing-library/react'".toList = clause' := List.append_cancel_right split
  show cutSource? (' ' :: ("from '@testing-library/react'".toList ++ rest)) = _
  rw [cutSource?_cons_of_none rfl, if_neg (by decide)]
  refine (congrArg (Option.map _) cut).trans ?_
  rw [← whole]
  rfl

theorem text_generated (rest : Text) : (generated rest).text =
    "import".toList ++ ([' '] ++ openBrace :: (" render, screen ".toList ++
      closeBrace :: (" from '@testing-library/react'".toList ++ rest))) := by
  rfl

theorem find?_generated (rest : Text) :
    find? (generated rest).text = some (generated rest) := by
  have opened : openOnLine? (openBrace :: (" render, screen ".toList ++
      closeBrace :: (" from '@testing-library/react'".toList ++ rest))) =
      some { generated rest with opening := [openBrace] } := by
    apply openOnLine?_of_names rfl
    rw [readNames?_of_names (by decide), cutSource?_generated]
    rfl
  have read : read? (generated rest).text = some (generated rest) := by
    rw [text_generated, read?_eq (by decide) (by decide) rfl, opened]
    rfl
  obtain ⟨more, starts⟩ : ∃ more, (generated rest).text = 'i' :: more := ⟨_, rfl⟩
  rw [starts] at read ⊢
  rw [find?, findFrom, if_neg Bool.false_ne_true, read]

theorem addIfUsed_generated {symbol usage : Text} (bound : symbol ∈ bindings " render, screen ")
    (rest : Text) : addIfUsed symbol usage (generated rest).text = none :=
  addIfUsed_eq_none_iff.2 fun found first => by
    rw [find?_generated] at first
    obtain rfl := Option.some.inj first
    exact .inl bound

end LibraryImport

theorem Text.exists_join_lines (first second third next : Text) (more : List Text) :
    ∃ rest, join ['\n'] (first :: second :: third :: next :: more) =
      first ++ '\n' :: (second ++ '\n' :: (third ++ '\n' :: rest)) :=
  ⟨join ['\n'] (next :: more), by simp [join_cons_cons]⟩

theorem Component.testText_eq (component : Component) :
    ∃ rest, component.testText = Conventions.reactImport ++ LineEnding.lf.text ++
      (LibraryImport.generated (";\n".toList ++ (Conventions.matcherImport ++ '\n' :: rest))).text := by
  obtain ⟨rest, text⟩ : ∃ rest, component.testText = Conventions.reactImport ++ '\n' ::
      ("import \x7b render, screen \x7d from '@testing-library/react';".toList ++ '\n' ::
        (Conventions.matcherImport ++ '\n' :: rest)) := Text.exists_join_lines _ _ _ _ _
  refine ⟨rest, text.trans ?_⟩
  rw [List.append_assoc]
  rfl

namespace TestImports

theorem addIfUsed_testText {symbol usage : Text}
    (bound : symbol ∈ LibraryImport.bindings " render, screen ") (oneLine : usage.OneLine)
    (absent : Text.occursIn usage Conventions.reactImport = false) (component : Component) :
    LibraryImport.addIfUsed symbol usage component.testText = none := by
  obtain ⟨rest, text⟩ := component.testText_eq
  have idle := @LibraryImport.addIfUsed_generated symbol usage bound
    (";\n".toList ++ (Conventions.matcherImport ++ '\n' :: rest))
  rw [Bool.eq_false_iff, ne_eq, Text.occursIn_iff_infix] at absent
  rw [text]
  generalize (LibraryImport.generated _).text = below at idle ⊢
  rw [← List.nil_append (_ ++ _)]
  refine LibraryImport.addIfUsed_insert_of_none inert_reactImport .lf (.inl rfl) oneLine absent idle ?_
  rintro found _ ⟨short, _⟩
  exact absurd short (Nat.not_lt_zero _)

theorem fix_testText (component : Component) :
    fix component.testText = (component.testText, []) := by
  have bound : "screen".toList ∈ LibraryImport.bindings " render, screen " ∧
      "render".toList ∈ LibraryImport.bindings " render, screen " := by decide
  refine (fix_eq_self_iff _).2 ⟨?_, ?_, ?_⟩
  · rintro (lacks | lacks)
    · exact lacks (addIfUsed_testText bound.1 (by simp [Text.OneLine]) (by decide) component)
    · exact lacks (addIfUsed_testText bound.2 (by simp [Text.OneLine]) (by decide) component)
  · obtain ⟨rest, text⟩ := component.testText_eq
    have react := importsReact_reactImport (LineEnding.lf.text ++ (LibraryImport.generated
      (";\n".toList ++ (Conventions.matcherImport ++ '\n' :: rest))).text)
    rw [addReact_eq_none_iff, text, List.append_assoc, hasReactImport, atLineStart, react]
    exact .inr rfl
  · obtain ⟨rest, text⟩ := component.testText_eq
    have named : "jest-dom".toList <:+: Conventions.matcherImport :=
      Text.occursIn_iff_infix.1 (by decide)
    have known : Text.occursIn "jest-dom" component.testText = true := by
      rw [Text.occursIn_iff_infix, text, LibraryImport.text]
      refine named.trans ?_
      exact List.infix_append_of_infix_right (List.infix_append_of_infix_right
        (List.infix_append_of_infix_right (List.infix_append_of_infix_left List.infix_rfl)))
    rw [addMatchers, known, Bool.or_true, if_pos rfl]

end TestImports

end DiagnosticRepair
