import DiagnosticRepair.Proofs.Text.Endings
import DiagnosticRepair.Proofs.Source.Edits
import DiagnosticRepair.Source.Alias

namespace DiagnosticRepair

namespace LineEnding

def readLine (lines : List Text) (i : Nat) (line : Text) : Text :=
  if i + 1 < lines.length then line ++ ['\r'] else line

theorem getElem?_withReturns : ∀ (lines : List Text) (i : Nat),
    (withReturns lines)[i]? = lines[i]?.map (readLine lines i)
  | [], _ => rfl
  | [_], 0 => rfl
  | [_], _ + 1 => rfl
  | _ :: _ :: _, 0 => by simp [withReturns, readLine]
  | first :: next :: rest, i + 1 => by
      have later := getElem?_withReturns (next :: rest) i
      have same : readLine (next :: rest) i = readLine (first :: next :: rest) (i + 1) := by
        funext line
        simp [readLine]
      rw [withReturns, List.getElem?_cons_succ, List.getElem?_cons_succ, later, same]

theorem set_withReturns : ∀ (lines : List Text) (i : Nat) (line : Text),
    (withReturns lines).set i (readLine lines i line) = withReturns (lines.set i line)
  | [], _, _ => rfl
  | [_], 0, _ => rfl
  | [_], _ + 1, _ => rfl
  | _ :: _ :: _, 0, _ => by simp [withReturns, readLine]
  | first :: next :: rest, i + 1, line => by
      have later := set_withReturns (next :: rest) i line
      have same : readLine (next :: rest) i line = readLine (first :: next :: rest) (i + 1) line := by
        simp [readLine]
      rw [withReturns, List.set_cons_succ, ← same, later, List.set_cons_succ]
      cases i <;> rfl

theorem map_withReturns {f : Text → Text} (h : ∀ line, f (line ++ ['\r']) = f line ++ ['\r']) :
    ∀ lines : List Text, (withReturns lines).map f = withReturns (lines.map f)
  | [] => rfl
  | [_] => rfl
  | line :: next :: rest => by
      have later := map_withReturns h (next :: rest)
      rw [withReturns, List.map_cons, h, later]
      rfl

theorem flatMap_withReturns {α : Type} {f : Text → List α} (h : ∀ line, f (line ++ ['\r']) = f line) :
    ∀ lines : List Text, (withReturns lines).flatMap f = lines.flatMap f
  | [] => rfl
  | [_] => rfl
  | line :: next :: rest => by
      rw [withReturns, List.flatMap_cons, h, flatMap_withReturns h (next :: rest)]
      rfl

end LineEnding

namespace Text

variable {name needle old new line : Text}

theorem occursIn_append_return (h : '\r' ∉ needle) (line : Text) :
    occursIn needle (line ++ ['\r']) = occursIn needle line := by
  induction line with
  | nil =>
      cases needle with
      | nil => rfl
      | cons s more =>
          have starts := isPrefixOf_append_of_not_mem h [] []
          rw [List.nil_append] at starts ⊢
          simp only [occursIn, starts]
          rfl
  | cons c rest ih =>
      rw [List.cons_append, occursIn, occursIn, ih, ← List.cons_append, isPrefixOf_append_of_not_mem h]

theorem replaceFirst_append_return (h : '\r' ∉ old) (found : occursIn old line = true) :
    replaceFirst old new (line ++ ['\r']) = replaceFirst old new line ++ ['\r'] := by
  induction line with
  | nil =>
      have empty : old = [] := by simpa [occursIn] using found
      subst empty
      simp [replaceFirst]
  | cons c rest ih =>
      rw [List.cons_append, replaceFirst, replaceFirst, ← List.cons_append,
        isPrefixOf_append_of_not_mem h]
      by_cases starts : old.isPrefixOf (c :: rest) = true
      · have long : old.length ≤ (c :: rest).length :=
          (List.isPrefixOf_iff_prefix.1 starts).length_le
        rw [if_pos starts, if_pos starts, List.drop_append_of_le_length long, List.append_assoc]
      · rw [if_neg starts, if_neg starts, ih, List.cons_append]
        rw [occursIn, Bool.or_eq_true] at found
        exact found.resolve_left starts

end Text

namespace UnusedNames

open LineEnding

variable {name line changed : Text} {unused : UnusedName} {names : List UnusedName}

theorem standsAt_append_return (h : '\r' ∉ name) (line : Text) :
    standsAt name (line ++ ['\r']) = standsAt name line := by
  unfold standsAt
  rw [Text.isPrefixOf_append_of_not_mem h]
  cases starts : name.isPrefixOf line with
  | false => rfl
  | true =>
      have long := (List.isPrefixOf_iff_prefix.1 starts).length_le
      rw [List.drop_append_of_le_length long]
      cases line.drop name.length with
      | nil => decide
      | cons c rest => rfl

theorem underscoreFrom_append_return (h : '\r' ∉ name) (some_name : name ≠ []) (joined : Bool)
    (line : Text) :
    underscoreFrom name joined (line ++ ['\r']) =
      (underscoreFrom name joined line).map (· ++ ['\r']) := by
  have unnamed : name.isEmpty = false := by simpa using some_name
  induction line generalizing joined with
  | nil =>
      have nowhere : standsAt name ['\r'] = false := by
        have := standsAt_append_return h []
        rw [List.nil_append] at this
        rw [this, standsAt]
        cases name with
        | nil => exact absurd rfl some_name
        | cons s more => rfl
      simp only [List.nil_append, underscoreFrom, nowhere, unnamed, Bool.and_false,
        Bool.false_eq_true, if_false, Option.map_none]
  | cons c rest ih =>
      rw [List.cons_append, underscoreFrom, underscoreFrom, ← List.cons_append,
        standsAt_append_return h, ih]
      split
      · rfl
      · cases underscoreFrom name (Text.isNameChar c) rest <;> rfl

theorem mem_underscoreFrom {joined : Bool} (h : underscoreFrom name joined line = some changed) :
    ∀ c ∈ changed, c = '_' ∨ c ∈ line := by
  induction line generalizing joined changed with
  | nil =>
      unfold underscoreFrom at h
      split at h
      · cases h
        simp
      · cases h
  | cons d rest ih =>
      unfold underscoreFrom at h
      split at h
      · cases h
        intro c member
        exact List.mem_cons.1 member
      · obtain ⟨more, found, rfl⟩ := Option.map_eq_some_iff.1 h
        intro c member
        rcases List.mem_cons.1 member with rfl | later
        · exact .inr (List.mem_cons_self ..)
        · exact (ih found c later).imp_right (List.mem_cons_of_mem _)

theorem renameOn?_withReturns (h : '\r' ∉ unused.name) (some_name : unused.name ≠ [])
    (lines : List Text) :
    renameOn? (withReturns lines) unused = (renameOn? lines unused).map withReturns := by
  unfold renameOn?
  split
  · rfl
  · rw [getElem?_withReturns]
    cases there : lines[(unused.line - 1).toNat]? with
    | none => rfl
    | some line =>
        have read : underscore? unused.name (readLine lines (unused.line - 1).toNat line) =
            (underscore? unused.name line).map (readLine lines (unused.line - 1).toNat) := by
          unfold readLine underscore?
          split
          · exact underscoreFrom_append_return h some_name false line
          · exact (Option.map_id' ..).symm
        simp only [Option.map_some, read]
        cases underscore? unused.name line with
        | none => rfl
        | some changed => simp [set_withReturns]

def Renaming.withReturns (state : Renaming) : Renaming :=
  { state with lines := LineEnding.withReturns state.lines }

theorem step_withReturns (h : '\r' ∉ unused.name) (some_name : unused.name ≠ [])
    (state : Renaming) : state.withReturns.step unused = (state.step unused).withReturns := by
  unfold Renaming.step
  have renamed : renameOn? state.withReturns.lines unused =
      (renameOn? state.lines unused).map LineEnding.withReturns :=
    renameOn?_withReturns h some_name state.lines
  rw [renamed]
  cases renameOn? state.lines unused <;> rfl

theorem unbroken_step {state : Renaming} (h : ∀ line ∈ state.lines, '\n' ∉ line) :
    ∀ line ∈ (state.step unused).lines, '\n' ∉ line := by
  unfold Renaming.step
  cases found : renameOn? state.lines unused with
  | none => exact h
  | some lines =>
      unfold renameOn? at found
      split at found
      · cases found
      · cases there : state.lines[(unused.line - 1).toNat]? with
        | none =>
            simp only [there] at found
            cases found
        | some line =>
            simp only [there] at found
            obtain ⟨changed, renamed, rfl⟩ := Option.map_eq_some_iff.1 found
            intro other member broken
            rcases List.mem_or_eq_of_mem_set member with old | rfl
            · exact h other old broken
            · rcases mem_underscoreFrom renamed _ broken with underscore | inside
              · cases underscore
              · exact h line (List.mem_of_getElem? there) inside

theorem rename_toCrlf (text : Text)
    (h : ∀ unused ∈ names, unused.name ≠ [] ∧ ∀ c ∈ unused.name, Text.isNameChar c = true) :
    rename (Text.toCrlf text) names = (rename text names).withReturns ∧
      ∀ line ∈ (rename text names).lines, '\n' ∉ line := by
  suffices ∀ (rest : List UnusedName) (state : Renaming), (∀ unused ∈ rest, unused ∈ names) →
      (∀ line ∈ state.lines, '\n' ∉ line) →
      rest.foldl Renaming.step state.withReturns = (rest.foldl Renaming.step state).withReturns ∧
        ∀ line ∈ (rest.foldl Renaming.step state).lines, '\n' ∉ line by
    unfold rename
    rw [lf_split_toCrlf]
    exact this names ⟨LineEnding.lf.split text, [], []⟩ (fun _ => id)
      fun line member => unbroken_of_mem_split member
  intro rest
  induction rest with
  | nil => exact fun state _ unbroken => ⟨rfl, unbroken⟩
  | cons unused rest ih =>
      intro state asked unbroken
      obtain ⟨some_name, of_name⟩ := h unused (asked unused (List.mem_cons_self ..))
      have noReturn : '\r' ∉ unused.name := fun member => absurd (of_name _ member) (by decide)
      rw [List.foldl_cons, List.foldl_cons, step_withReturns noReturn some_name]
      exact ih _ (fun other member => asked other (List.mem_cons_of_mem _ member))
        (unbroken_step unbroken)

end UnusedNames

namespace ImportBlock

variable {statements : List Text} {statement text : Text}

theorem occursIn_join {needle : Text} (h : needle.OneLine) (lines : List Text) :
    Text.occursIn needle (LineEnding.crlf.join lines) =
      Text.occursIn needle (LineEnding.lf.join lines) := by
  rw [Bool.eq_iff_iff, Text.occursIn_iff_infix, Text.occursIn_iff_infix]
  by_cases empty : needle = []
  · subst empty
    exact iff_of_true List.nil_infix List.nil_infix
  · rw [Text.infix_join_lines_iff h empty, Text.infix_join_lines_iff h empty]

theorem select_congr {textWith textWith' : List Text → Text}
    (same : ∀ inserted, ∀ statement ∈ statements,
      Text.occursIn (needle statement) (textWith' inserted) =
        Text.occursIn (needle statement) (textWith inserted)) :
    select textWith' statements = select textWith statements := by
  suffices ∀ (rest inserted : List Text), (∀ s ∈ rest, s ∈ statements) →
      rest.foldl (fun inserted statement =>
        if Text.occursIn (needle statement) (textWith' inserted) then inserted
        else inserted ++ [statement]) inserted =
      rest.foldl (fun inserted statement =>
        if Text.occursIn (needle statement) (textWith inserted) then inserted
        else inserted ++ [statement]) inserted from
    this statements [] fun _ => id
  intro rest
  induction rest with
  | nil => exact fun _ _ => rfl
  | cons statement rest ih =>
      intro inserted asked
      rw [List.foldl_cons, List.foldl_cons, same _ _ (asked _ (List.mem_cons_self ..))]
      exact ih _ fun other member => asked other (List.mem_cons_of_mem _ member)

theorem mem_of_mem_select {textWith : List Text → Text}
    (h : statement ∈ select textWith statements) : statement ∈ statements := by
  suffices ∀ (rest inserted : List Text), statement ∈ rest.foldl (fun inserted statement =>
      if Text.occursIn (needle statement) (textWith inserted) then inserted
      else inserted ++ [statement]) inserted → statement ∈ inserted ∨ statement ∈ rest from
    (this statements [] h).resolve_left List.not_mem_nil
  intro rest
  induction rest with
  | nil => exact fun _ old => .inl old
  | cons first rest ih =>
      intro inserted member
      rw [List.foldl_cons] at member
      rcases ih _ member with old | later
      · split at old
        · exact .inl old
        · rcases List.mem_append.1 old with old | new
          · exact .inl old
          · exact .inr (List.mem_singleton.1 new ▸ List.mem_cons_self ..)
      · exact .inr (List.mem_cons_of_mem _ later)

theorem insert_toCrlf (noReturn : '\r' ∉ text) (broken : '\n' ∈ text)
    (h : ∀ statement ∈ statements, statement.OneLine) :
    insert (Text.toCrlf text) statements =
      (Text.toCrlf (insert text statements).1, (insert text statements).2) := by
  have lines := LineEnding.crlf_split_toCrlf noReturn
  have selected : select (extended (Text.toCrlf text)) statements =
      select (extended text) statements := by
    refine select_congr fun inserted statement asked => ?_
    simp only [extended, LineEnding.ofText_toCrlf broken, LineEnding.ofText_of_noReturn noReturn,
      lines]
    exact occursIn_join (oneLine_needle_of_oneLine (h statement asked)) _
  rw [insert_eq, insert_eq, selected]
  congr 1
  simp only [extended, LineEnding.ofText_toCrlf broken, LineEnding.ofText_of_noReturn noReturn,
    lines]
  refine LineEnding.crlf_join _ fun line member => ?_
  rcases List.mem_append.1 member with member | below
  · rcases List.mem_append.1 member with above | new
    · exact LineEnding.unbroken_of_mem_split (List.mem_of_mem_take above)
    · exact fun feed => (h line (mem_of_mem_select new) _ feed).2 rfl
  · exact LineEnding.unbroken_of_mem_split (List.mem_of_mem_drop below)

end ImportBlock

namespace Text

variable {text piece separator old new : Text}

theorem OneLine.append {first second : Text} (h : first.OneLine) (h' : second.OneLine) :
    (first ++ second).OneLine := fun c member => (List.mem_append.1 member).elim (h c) (h' c)

theorem oneLine_join (apart : separator.OneLine) (pieces : List Text)
    (h : ∀ piece ∈ pieces, piece.OneLine) : (join separator pieces).OneLine := by
  intro c member
  rcases mem_join member with between | ⟨piece, inside, within⟩
  · exact apart c between
  · exact h piece inside c within

theorem oneLine_replaceAll {c : Char} (h : new.OneLine) (h' : text.OneLine) :
    (replaceAll [c] new text).OneLine :=
  oneLine_join h _ fun _ piece d member => h' d (mem_of_mem_splitOn piece member)

theorem mem_replaceFirst {c : Char} (h : c ∈ replaceFirst old new text) : c ∈ new ∨ c ∈ text := by
  induction text with
  | nil =>
      unfold replaceFirst at h
      split at h
      · exact .inl h
      · cases h
  | cons d rest ih =>
      unfold replaceFirst at h
      split at h
      · rcases List.mem_append.1 h with inside | later
        · exact .inl inside
        · exact .inr (List.mem_of_mem_drop later)
      · rcases List.mem_cons.1 h with rfl | later
        · exact .inr (List.mem_cons_self ..)
        · exact (ih later).imp_right (List.mem_cons_of_mem _)

end Text

namespace Location

theorem mem_wayTo {step : Step} : ∀ {here there : Location}, step ∈ wayTo here there →
    step = .up ∨ ∃ name ∈ there, step = .down name
  | a :: here, b :: there, h => by
      unfold wayTo at h
      split at h
      · rcases mem_wayTo h with up | ⟨name, member, down⟩
        · exact .inl up
        · exact .inr ⟨name, List.mem_cons_of_mem _ member, down⟩
      · rcases List.mem_append.1 h with up | down
        · exact .inl (List.eq_of_mem_replicate up)
        · obtain ⟨name, member, rfl⟩ := List.mem_map.1 down
          exact .inr ⟨name, member, rfl⟩
  | [], there, h => by
      unfold wayTo at h
      obtain ⟨name, member, rfl⟩ := List.mem_map.1 h
      exact .inr ⟨name, member, rfl⟩
  | _ :: _, [], h => by
      unfold wayTo at h
      exact .inl (List.eq_of_mem_replicate h)

theorem mem_follow {name : FileName} : ∀ {steps : List Step} {here : Location},
    name ∈ here.follow steps → name ∈ here ∨ .down name ∈ steps
  | [], _, h => .inl h
  | step :: rest, here, h => by
      have either : name ∈ here.step step ∨ .down name ∈ rest := mem_follow h
      rcases either with inside | later
      · cases step with
        | up => exact .inl (List.dropLast_subset _ inside)
        | down first =>
            rcases List.mem_append.1 inside with old | new
            · exact .inl old
            · exact .inr (List.mem_singleton.1 new ▸ List.mem_cons_self ..)
      · exact .inr (List.mem_cons_of_mem _ later)

end Location

namespace Alias

open LineEnding

variable {relative : Text → Text} {table : List (Text × Text)} {line text : Text}

theorem quotedAliasFollows_append_return (text : Text) :
    quotedAliasFollows (text ++ ['\r']) = quotedAliasFollows text := by
  unfold quotedAliasFollows
  rw [Text.trimStart_concat (by decide)]
  cases blank : Text.allBlank text with
  | true => rw [Text.trimStart_of_allBlank blank, if_pos rfl]
  | false =>
      rw [if_neg (by simp)]
      rcases Text.trimStart text with _ | ⟨quote, _ | ⟨second, _ | ⟨third, rest⟩⟩⟩
      · rfl
      · simp
      · simp
      · simp only [List.cons_append]
        split <;> split <;> simp_all

theorem fromAlias_append_return (joined : Bool) (text : Text) :
    fromAlias joined (text ++ ['\r']) = fromAlias joined text := by
  induction text generalizing joined with
  | nil => cases joined <;> decide
  | cons c rest ih =>
      have apart : '\r' ∉ "from".toList := by decide
      have starts := Text.isPrefixOf_append_of_not_mem apart (c :: rest) []
      rw [List.cons_append] at starts ⊢
      rw [fromAlias, fromAlias, ih, starts]
      cases found : "from".toList.isPrefixOf (c :: rest) with
      | false => simp
      | true =>
          have long : 4 ≤ (c :: rest).length := (List.isPrefixOf_iff_prefix.1 found).length_le
          rw [← List.cons_append, List.drop_append_of_le_length long,
            quotedAliasFollows_append_return]

theorem importsAlias_append_return (line : Text) :
    importsAlias (line ++ ['\r']) = importsAlias line := by
  unfold importsAlias
  rw [Text.trimStart_concat (by decide)]
  cases blank : Text.allBlank line with
  | true => rw [Text.trimStart_of_allBlank blank, if_pos rfl]
  | false =>
      rw [if_neg (by simp)]
      simp only
      rw [Text.isPrefixOf_append_of_not_mem (by decide)]
      cases found : "import".toList.isPrefixOf (Text.trimStart line) with
      | false => rfl
      | true =>
          have long : 6 ≤ (Text.trimStart line).length :=
            (List.isPrefixOf_iff_prefix.1 found).length_le
          rw [List.drop_append_of_le_length long, quotedAliasFollows_append_return]

def Resolution.withReturn (state : Resolution) : Resolution :=
  { state with line := state.line ++ ['\r'] }

theorem step_withReturn {entry : Text × Text} (h : '\r' ∉ entry.1) (state : Resolution) :
    state.withReturn.step relative entry = (state.step relative entry).withReturn := by
  unfold Resolution.step Resolution.withReturn
  rw [Text.occursIn_append_return h]
  split
  · rename_i found
    simp [Text.replaceFirst_append_return h found]
  · rfl

theorem resolveLine_append_return (h : ∀ entry ∈ table, '\r' ∉ entry.1) (line : Text) :
    resolveLine relative table (line ++ ['\r']) = (resolveLine relative table line).withReturn := by
  unfold resolveLine isAliasImport
  rw [fromAlias_append_return, importsAlias_append_return]
  split
  · suffices ∀ (rest : List (Text × Text)) (state : Resolution), (∀ entry ∈ rest, entry ∈ table) →
        rest.foldl (Resolution.step relative) state.withReturn =
          (rest.foldl (Resolution.step relative) state).withReturn from
      this table ⟨line, []⟩ fun _ => id
    intro rest
    induction rest with
    | nil => exact fun _ _ => rfl
    | cons entry rest ih =>
        intro state known
        rw [List.foldl_cons, List.foldl_cons,
          step_withReturn (h entry (known entry (List.mem_cons_self ..)))]
        exact ih _ fun other member => known other (List.mem_cons_of_mem _ member)
  · rfl

theorem unbroken_resolveLine (h : ∀ entry ∈ table, '\n' ∉ relative entry.2)
    (unbroken : '\n' ∉ line) : '\n' ∉ (resolveLine relative table line).line := by
  unfold resolveLine
  split
  · suffices ∀ (rest : List (Text × Text)) (state : Resolution), (∀ entry ∈ rest, entry ∈ table) →
        '\n' ∉ state.line → '\n' ∉ (rest.foldl (Resolution.step relative) state).line from
      this table ⟨line, []⟩ (fun _ => id) unbroken
    intro rest
    induction rest with
    | nil => exact fun _ _ => id
    | cons entry rest ih =>
        intro state known apart
        refine ih _ (fun other member => known other (List.mem_cons_of_mem _ member)) ?_
        unfold Resolution.step
        split
        · intro broken
          rcases Text.mem_replaceFirst broken with inside | old
          · exact h entry (known entry (List.mem_cons_self ..)) inside
          · exact apart old
        · exact apart
  · exact unbroken

theorem conventional_targets : ∀ entry ∈ Conventions.aliases,
    '\r' ∉ entry.1 ∧ (Path.ofText entry.2).isAbsolute = false ∧
      ∀ step ∈ (Path.ofText entry.2).steps, step.text.OneLine := by
  decide +kernel

theorem oneLine_relativeText {steps : List Step} (h : ∀ step ∈ steps, step.text.OneLine) :
    (Path.text ⟨.here, steps⟩).OneLine := by
  cases steps with
  | nil => simp [Text.OneLine, Path.text]
  | cons first rest =>
      have empty : Text.OneLine [] := fun _ member => by cases member
      refine empty.append ?_
      refine Text.oneLine_join (by simp [Text.OneLine]) _ fun piece member => ?_
      obtain ⟨step, on_way, rfl⟩ := List.mem_map.1 member
      exact h step on_way

theorem oneLine_relativeTarget {here : Location} {testFile target root : Path}
    (h : ∀ name ∈ root.location here, name.text.OneLine) (relative : target.isAbsolute = false)
    (steps : ∀ step ∈ target.steps, step.text.OneLine) :
    (relativeTarget here testFile target root).OneLine := by
  have names : ∀ name ∈ (root ++ target).location here, name.text.OneLine := by
    have below : (root ++ target).location here = (root.location here).follow target.steps := by
      have joined : root ++ target = ⟨root.anchor, root.steps ++ target.steps⟩ := by
        show Path.append root target = _
        rw [Path.append, relative]
        rfl
      rw [joined, Path.location, Path.location, Location.follow_append]
      rfl
    intro name member
    rw [below] at member
    rcases Location.mem_follow member with above | own
    · exact h name above
    · exact steps _ own
  have way : (Path.text ⟨.here, ((root ++ testFile).parent.location here).wayTo
      ((root ++ target).location here)⟩).OneLine := by
    refine oneLine_relativeText fun step on_way => ?_
    rcases Location.mem_wayTo on_way with rfl | ⟨name, inside, rfl⟩
    · simp [Text.OneLine, Step.text]
    · exact names name inside
  have slash : Text.OneLine ['/'] := by simp [Text.OneLine]
  have dots : Text.OneLine ['.', '/'] := by simp [Text.OneLine]
  have replaced := Text.oneLine_replaceAll (c := '\\') slash way
  unfold relativeTarget
  simp only
  split
  · exact replaced
  · exact dots.append replaced

theorem resolve_toCrlf {here : Location} {testFile root : Path}
    (h : ∀ name ∈ root.location here, name.text.OneLine) (text : Text) :
    resolve here (Text.toCrlf text) testFile root Conventions.aliases =
      (Text.toCrlf (resolve here text testFile root Conventions.aliases).1,
        (resolve here text testFile root Conventions.aliases).2) := by
  have keys : ∀ entry ∈ Conventions.aliases, '\r' ∉ entry.1 :=
    fun entry member => (conventional_targets entry member).1
  have targets : ∀ entry ∈ Conventions.aliases,
      '\n' ∉ relativeTarget here testFile (Path.ofText entry.2) root := by
    intro entry member feed
    obtain ⟨_, relative, steps⟩ := conventional_targets entry member
    exact (oneLine_relativeTarget h relative steps _ feed).2 rfl
  unfold resolve
  simp only [lf_split_toCrlf, List.map_map, List.flatMap_map]
  congr 1
  · rw [map_withReturns]
    · refine lf_join_withReturns _ fun line member => ?_
      obtain ⟨old, split, rfl⟩ := List.mem_map.1 member
      exact unbroken_resolveLine targets (unbroken_of_mem_split split)
    · intro line
      exact congrArg Resolution.line (resolveLine_append_return keys line)
  · refine flatMap_withReturns (fun line => ?_) _
    exact (congrArg Resolution.changes (resolveLine_append_return keys line) :)

end Alias

end DiagnosticRepair
