import DiagnosticRepair.Proofs.Path.Way
import DiagnosticRepair.Proofs.Source.LineEndings
import Mathlib.Data.List.Infix

namespace DiagnosticRepair

namespace Text

theorem join_nil_cons {separator : Text} {pieces : List Text} (h : pieces ≠ []) :
    join separator ([] :: pieces) = separator ++ join separator pieces := by
  cases pieces with
  | nil => exact absurd rfl h
  | cons piece rest => rw [join_cons_cons, List.nil_append]

theorem replaceAll_singleton (old new : Char) (text : Text) :
    replaceAll [old] [new] text = text.map fun c => if c = old then new else c := by
  show join [new] (splitOn [old] text) = _
  induction text with
  | nil => rfl
  | cons c rest ih =>
      by_cases met : c = old
      · subst met
        rw [splitOn_cons_separator, join_nil_cons (splitOn_ne_nil _ _), ih, List.map_cons,
          if_pos rfl]
        rfl
      · rw [splitOn_cons_of_ne met, join_modifyHead _ _ _ (splitOn_ne_nil _ _), ih, List.map_cons,
          if_neg met]

end Text

namespace Path

def straight (path : Path) : Path :=
  ⟨path.anchor, (Location.follow [] path.steps).map .down⟩

end Path

namespace Alias

variable {name : FileName} {steps rest : List Step} {here : Location} {text : Text}
  {testFile target root : Path}

/-- Module resolution takes such a specifier for a path and never for the name of a package. -/
def IsRelative (specifier : Text) : Prop :=
  specifier = ['.'] ∨ specifier = ['.', '.'] ∨ ['.', '/'] <+: specifier ∨
    ['.', '.', '/'] <+: specifier

instance : DecidablePred IsRelative := fun _ => inferInstanceAs (Decidable (_ ∨ _ ∨ _ ∨ _))

def slashed (text : Text) : Text :=
  text.map fun c => if c = '\\' then '/' else c

theorem slashed_of_not_mem (h : '\\' ∉ text) : slashed text = text := by
  refine (List.map_congr_left fun c member => ?_).trans (List.map_id' text)
  refine if_neg ?_
  rintro rfl
  exact h member

theorem not_mem_slashed (text : Text) : '\\' ∉ slashed text := by
  intro member
  obtain ⟨c, _, same⟩ := List.mem_map.1 member
  by_cases back : c = '\\'
  · rw [if_pos back] at same
    cases same
  · rw [if_neg back] at same
    exact back same

theorem eq_slash_or_mem_of_mem_slashed {c : Char} (h : c ∈ slashed text) : c = '/' ∨ c ∈ text := by
  obtain ⟨d, inside, rfl⟩ := List.mem_map.1 h
  split
  · exact .inl rfl
  · exact .inr inside

def specifierOf (steps : List Step) : Text :=
  let text := slashed (Path.text ⟨.here, steps⟩)
  if text.head? = some '.' then text else '.' :: '/' :: text

theorem relativeTarget_eq (here : Location) (testFile target root : Path) :
    relativeTarget here testFile target root =
      specifierOf (((root ++ testFile).parent.location here).wayTo
        ((root ++ target).location here)) := by
  unfold relativeTarget specifierOf
  simp only [Text.replaceAll_singleton]
  rfl

theorem text_cons (step : Step) (rest : List Step) : ∃ tail,
    Path.text ⟨.here, step :: rest⟩ = step.text ++ tail ∧
      (tail = [] ∨ ∃ more, tail = '/' :: more) := by
  cases rest with
  | nil => exact ⟨[], by simp [Path.text, Anchor.text, Text.join_singleton], .inl rfl⟩
  | cons next rest =>
      refine ⟨['/'] ++ Text.join ['/'] ((next :: rest).map Step.text), ?_, .inr ⟨_, rfl⟩⟩
      simp [Path.text, Anchor.text, Text.join_cons_cons]

theorem mem_text {c : Char} (h : c ∈ Path.text ⟨.here, steps⟩) :
    c = '.' ∨ c = '/' ∨ ∃ step ∈ steps, c ∈ step.text := by
  rcases steps with _ | ⟨step, rest⟩
  · exact .inl (List.mem_singleton.1 h)
  · rcases Text.mem_join (List.mem_append.1 h |>.resolve_left List.not_mem_nil) with
      between | ⟨piece, inside, within⟩
    · exact .inr (.inl (List.mem_singleton.1 between))
    · obtain ⟨step, on_way, rfl⟩ := List.mem_map.1 inside
      exact .inr (.inr ⟨step, on_way, within⟩)

theorem isRelative_specifierOf_up (rest : List Step) : IsRelative (specifierOf (.up :: rest)) := by
  obtain ⟨tail, shown, ends⟩ := text_cons .up rest
  have written : specifierOf (.up :: rest) = '.' :: '.' :: slashed tail := by
    unfold specifierOf
    rw [shown]
    rfl
  rw [written]
  rcases ends with rfl | ⟨more, rfl⟩
  · exact .inr (.inl rfl)
  · exact .inr (.inr (.inr ⟨slashed more, rfl⟩))

theorem slashed_cons {c : Char} (h : c ≠ '\\') (text : Text) :
    slashed (c :: text) = c :: slashed text := by
  rw [slashed, List.map_cons, if_neg h]
  rfl

theorem head?_slashed_ne_dot {c : Char} (h : c ≠ '.') (text : Text) :
    (slashed (c :: text)).head? ≠ some '.' := by
  by_cases back : c = '\\'
  · subst back
    exact fun same => absurd (Option.some.inj same) (by decide)
  · rw [slashed_cons back, List.head?_cons]
    exact fun same => h (Option.some.inj same)

theorem isRelative_specifierOf_down_iff : IsRelative (specifierOf (.down name :: rest)) ↔
    (name.text.head? = some '.' → ['.', '\\'] <+: name.text ∨ ['.', '.', '\\'] <+: name.text) := by
  obtain ⟨tail, shown, _⟩ := text_cons (.down name) rest
  have written : slashed (Path.text ⟨.here, .down name :: rest⟩) = slashed (name.text ++ tail) :=
    congrArg slashed shown
  obtain ⟨some_text, not_here, not_up, no_slash⟩ := name.valid
  unfold specifierOf
  simp only [written]
  generalize name.text = text at *
  rcases text with _ | ⟨c, more⟩
  · exact absurd rfl some_text
  by_cases dotted : c = '.'
  · subst dotted
    have kept : (slashed ('.' :: more ++ tail)).head? = some '.' := rfl
    have starts : slashed ('.' :: more ++ tail) = '.' :: slashed (more ++ tail) :=
      slashed_cons (by decide) _
    rw [if_pos kept, starts]
    rcases more with _ | ⟨d, more⟩
    · exact absurd rfl not_here
    by_cases back : d = '\\'
    · subst back
      exact iff_of_true (.inr (.inr (.inl ⟨slashed (more ++ tail), rfl⟩))) fun _ => .inl ⟨more, rfl⟩
    rw [List.cons_append, slashed_cons back]
    by_cases again : d = '.'
    · subst again
      rcases more with _ | ⟨e, more⟩
      · exact absurd rfl not_up
      by_cases back : e = '\\'
      · subst back
        exact iff_of_true (.inr (.inr (.inr ⟨slashed (more ++ tail), rfl⟩)))
          fun _ => .inr ⟨more, rfl⟩
      · have slash : '/' ≠ e := by
          rintro rfl
          simp at no_slash
        rw [List.cons_append, slashed_cons back]
        simp [IsRelative, List.cons_prefix_cons, slash, Ne.symm back]
    · have slash : '/' ≠ d := by
        rintro rfl
        simp at no_slash
      simp [IsRelative, List.cons_prefix_cons, slash, Ne.symm back, again, Ne.symm again]
  · rw [List.cons_append, if_neg (head?_slashed_ne_dot dotted _)]
    exact iff_of_true (.inr (.inr (.inl ⟨_, rfl⟩))) fun h => absurd (Option.some.inj h) dotted

theorem isRelative_specifierOf_iff : IsRelative (specifierOf steps) ↔
    ∀ name, (∃ rest, steps = .down name :: rest) → name.text.head? = some '.' →
      ['.', '\\'] <+: name.text ∨ ['.', '.', '\\'] <+: name.text := by
  rcases steps with _ | ⟨step, rest⟩
  · exact iff_of_true (by decide) fun _ ⟨_, empty⟩ => by cases empty
  · cases step with
    | up => exact iff_of_true (isRelative_specifierOf_up rest) fun _ ⟨_, down⟩ => by cases down
    | down name =>
        rw [isRelative_specifierOf_down_iff]
        constructor
        · rintro named name' ⟨rest', same⟩
          obtain ⟨down, _⟩ := List.cons.inj same
          cases down
          exact named
        · exact fun all => all name ⟨rest, rfl⟩

def stepsOf (steps : List Step) : List Step :=
  (Text.splitOn ['/'] (slashed (Path.text ⟨.here, steps⟩))).filterMap Step.ofText?

theorem ofText_specifierOf (steps : List Step) :
    Path.ofText (specifierOf steps) = ⟨.here, stepsOf steps⟩ := by
  unfold specifierOf Path.ofText stepsOf
  simp only
  split
  · rename_i dotted
    obtain ⟨rest, starts⟩ := List.head?_eq_some_iff.1 dotted
    rw [starts]
    rfl
  · rw [Text.splitOn_cons_of_ne (by decide), Text.splitOn_cons_separator]
    rfl

theorem stepsOf_of_not_mem (h : ∀ step ∈ steps, '\\' ∉ step.text) : stepsOf steps = steps := by
  have shown : slashed (Path.text ⟨.here, steps⟩) = Path.text ⟨.here, steps⟩ := by
    refine slashed_of_not_mem fun member => ?_
    rcases mem_text member with dot | slash | ⟨step, on_way, within⟩
    · exact absurd dot (by decide)
    · exact absurd slash (by decide)
    · exact h step on_way within
  have read := Path.ofText_text ⟨.here, steps⟩
  unfold stepsOf
  rw [shown]
  exact congrArg Path.steps read

theorem not_mem_text_of_mem_stepsOf (h : .down name ∈ stepsOf steps) : '\\' ∉ name.text := by
  obtain ⟨piece, inside, read⟩ := List.mem_filterMap.1 h
  have same : piece = name.text := by
    unfold Step.ofText? at read
    split at read
    · cases read
    · split at read
      · cases read
        rfl
      · cases read
  rw [← same]
  exact fun member => not_mem_slashed _ (Text.mem_of_mem_splitOn inside member)

variable {start goal : Location}

theorem follow_stepsOf_eq_iff : start.follow (stepsOf (start.wayTo goal)) = goal ↔
    ∀ above name, above ++ [name] <+: goal → '\\' ∈ name.text → above ++ [name] <+: start := by
  constructor
  · intro reached above name ⟨tail, whole⟩ back
    obtain ⟨n, names, split, own⟩ := start.follow_eq_take_append (stepsOf (start.wayTo goal))
    rw [reached, ← whole] at split
    have clear : name ∉ names := fun member => not_mem_text_of_mem_stepsOf (own name member) back
    rcases List.append_eq_append_iff.1 split with ⟨more, kept, _⟩ | ⟨more, kept, rest⟩
    · exact List.IsPrefix.trans ⟨more, kept.symm⟩ (List.take_prefix n start)
    · rcases List.eq_nil_or_concat more with rfl | ⟨more, last, rfl⟩
      · rw [List.append_nil] at kept
        exact kept ▸ List.take_prefix n start
      · rw [List.concat_eq_append, ← List.append_assoc] at kept
        obtain ⟨_, same⟩ := List.append_inj' kept rfl
        rw [List.cons.inj same |>.1] at clear
        exact absurd (by simp [rest]) clear
  · intro shared_names
    obtain ⟨shared, up, down, rfl, rfl, way, apart⟩ := start.exists_wayTo goal
    have plain : ∀ step ∈ (shared ++ up).wayTo (shared ++ down), '\\' ∉ step.text := by
      intro step member back
      rw [way] at member
      rcases List.mem_append.1 member with climbs | descends
      · rw [List.eq_of_mem_replicate climbs] at back
        revert back
        decide
      · obtain ⟨name, inside, rfl⟩ := List.mem_map.1 descends
        obtain ⟨front, behind, rfl⟩ := List.append_of_mem inside
        have below := shared_names (shared ++ front) name ⟨behind, by simp⟩ back
        rw [List.append_assoc, List.prefix_append_right_inj] at below
        -- the first name down would be the first name up as well
        obtain ⟨rest, rfl⟩ := below
        cases front <;> exact apart _ rfl rfl
    rw [stepsOf_of_not_mem plain]
    exact Location.follow_wayTo [] (shared ++ up) (shared ++ down)

theorem append_of_relative (h : target.isAbsolute = false) (root : Path) :
    root ++ target = ⟨root.anchor, root.steps ++ target.steps⟩ := by
  show Path.append root target = _
  rw [Path.append, h]
  rfl

theorem location_of_isAbsolute {path : Path} (h : path.isAbsolute = true) (here : Location) :
    path.location here = Location.follow [] path.steps := by
  rw [Path.location, if_pos h]

theorem isAbsolute_append (h : root.isAbsolute = true) (other : Path) :
    (root ++ other).isAbsolute = true := by
  show (Path.append root other).isAbsolute = true
  unfold Path.append
  split
  · assumption
  · exact h

theorem relativeTarget_resolves_iff (here : Location) (testFile : Path)
    (rooted : root.isAbsolute = true) (relative : target.isAbsolute = false) :
    let directory := (root ++ testFile).parent
    let specifier := relativeTarget here testFile target root
    let start := directory.location here
    let goal := (root ++ target).location here
    (IsRelative specifier ↔ ∀ name, (∃ rest, goal = start ++ name :: rest) →
      name.text.head? = some '.' →
        ['.', '\\'] <+: name.text ∨ ['.', '.', '\\'] <+: name.text) ∧
    ((directory ++ Path.ofText specifier).straight = (root ++ target).straight ↔
      directory.anchor = root.anchor ∧
        ∀ above name, above ++ [name] <+: goal → '\\' ∈ name.text → above ++ [name] <+: start) := by
  intro directory specifier start goal
  have written : specifier = specifierOf (start.wayTo goal) := relativeTarget_eq ..
  constructor
  · rw [written, isRelative_specifierOf_iff]
    simp only [Location.exists_down_iff]
  · have absolute : directory.isAbsolute = true := isAbsolute_append rooted testFile
    have start_eq : start = Location.follow [] directory.steps :=
      location_of_isAbsolute absolute here
    have goal_eq : goal = Location.follow [] (root ++ target).steps :=
      location_of_isAbsolute (isAbsolute_append rooted target) here
    have anchored : (root ++ target).anchor = root.anchor := by rw [append_of_relative relative]
    rw [← follow_stepsOf_eq_iff, written, ofText_specifierOf, Path.append_here, Path.straight,
      Path.straight, anchored, ← goal_eq, Location.follow_append, ← start_eq, Path.mk.injEq,
      List.map_inj_right fun _ _ same => Step.down.inj same]

theorem relativeTarget_resolves_iff_shared :
    let root : Path := "/w/.site/a\\b"
    let testFile : Path := "tests/../unit/y.test.tsx"
    let target : Path := "./app/_lib/utils"
    let specifier := relativeTarget [] testFile target root
    root.isAbsolute = true ∧ target.isAbsolute = false ∧ IsRelative specifier ∧
      ((root ++ testFile).parent ++ Path.ofText specifier).straight =
        (root ++ target).straight := by
  intro root testFile target specifier
  have rooted : root.isAbsolute = true := by decide +kernel
  have relative : target.isAbsolute = false := by decide +kernel
  obtain ⟨is_relative, resolves⟩ := relativeTarget_resolves_iff [] testFile rooted relative
  refine ⟨rooted, relative, is_relative.2 ?_, resolves.2 ⟨by decide +kernel, ?_⟩⟩
  · rintro name ⟨rest, below⟩
    have ahead := congrArg (List.take 4) below
    rw [List.take_append_of_le_length (by decide +kernel)] at ahead
    exact absurd ahead (by decide +kernel)
  · intro above name inside back
    have all : ∀ front ∈ ((root ++ target).location []).inits,
        front.getLast?.any (fun name => '\\' ∈ name.text) = true →
          front <+: (root ++ testFile).parent.location [] := by
      decide +kernel
    exact all _ ((List.mem_inits _ _).2 inside) (by simpa using back)

theorem relativeTarget_not_relative_hidden :
    let root : Path := "/w/.site"
    let testFile : Path := "/w/y.test.tsx"
    let target : Path := "./app/_lib/utils"
    root.isAbsolute = true ∧ target.isAbsolute = false ∧
      relativeTarget [] testFile target root = ".site/app/_lib/utils".toList ∧
      ¬ IsRelative (relativeTarget [] testFile target root) := by
  intro root testFile target
  have written : relativeTarget [] testFile target root = ".site/app/_lib/utils".toList := by
    decide +kernel
  exact ⟨by decide +kernel, by decide +kernel, written, written ▸ by decide⟩

end Alias

end DiagnosticRepair
