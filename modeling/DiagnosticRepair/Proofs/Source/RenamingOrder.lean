import DiagnosticRepair.Proofs.Source.Renaming
import Mathlib.Data.List.SplitBy
import Mathlib.Data.List.Nodup

namespace DiagnosticRepair

namespace UnusedNames

variable {name other line front back : Text} {ws rest names : List Text}

theorem Plain.prefixed (h : Plain name) : Plain ('_' :: name) :=
  ⟨List.cons_ne_nil _ _, List.forall_mem_cons.2 ⟨by decide, h.2⟩⟩

def words (line : Text) : List Text :=
  line.splitBy fun c d => Text.isNameChar c && Text.isNameChar d

theorem flatten_words (line : Text) : (words line).flatten = line :=
  List.flatten_splitBy ..

theorem words_of_plain (h : Plain name) : words name = [name] := by
  refine List.splitBy_of_isChain h.1 (List.Pairwise.isChain ?_)
  refine List.pairwise_of_forall_mem_list fun c here d there => ?_
  rw [h.2 c here, h.2 d there]
  rfl

theorem words_append_of_free_before (free : front.getLast?.any Text.isNameChar = false)
    (back : Text) : words (front ++ back) = words front ++ words back := by
  refine List.splitBy_append fun c last d _ => ?_
  have last_free : Text.isNameChar c = false := by simpa [Option.mem_def.1 last] using free
  rw [last_free, Bool.false_and]

theorem words_append_of_free_behind (free : back.head?.any Text.isNameChar = false)
    (front : Text) : words (front ++ back) = words front ++ words back := by
  refine List.splitBy_append fun c _ d first => ?_
  have first_free : Text.isNameChar d = false := by simpa [Option.mem_def.1 first] using free
  rw [first_free, Bool.and_false]

theorem words_of_free (h : Plain name) (free_before : front.getLast?.any Text.isNameChar = false)
    (free_behind : back.head?.any Text.isNameChar = false) :
    words (front ++ (name ++ back)) = words front ++ name :: words back := by
  rw [words_append_of_free_before free_before, words_append_of_free_behind free_behind,
    words_of_plain h, List.singleton_append]

theorem word_of_words {above below : List Text} (h : Plain name)
    (cut : words line = above ++ name :: below) : Word name line above.flatten below.flatten := by
  have pieces : ∀ word ∈ words line, word ≠ [] := fun _ => List.ne_nil_of_mem_splitBy
  have apart := List.isChain_getLast_head_splitBy
    (fun c d => Text.isNameChar c && Text.isNameChar d) line
  have whole := flatten_words line
  change (words line).IsChain _ at apart
  rw [cut] at pieces apart whole
  rw [List.isChain_append] at apart
  obtain ⟨_, behind, before⟩ := apart
  refine ⟨by simpa using whole.symm, ?_, ?_⟩
  · rcases List.eq_nil_or_concat above with rfl | ⟨above, word, rfl⟩
    · rfl
    · rw [List.concat_eq_append] at before pieces ⊢
      obtain ⟨some_word, some_name, free⟩ := before word (by simp) name (by simp)
      rw [h.2 _ (List.head_mem some_name), Bool.and_true] at free
      rw [List.flatten_concat, List.getLast?_append_of_ne_nil _ some_word,
        List.getLast?_eq_some_getLast some_word, Option.any_some, free]
  · cases below with
    | nil => rfl
    | cons word below =>
        obtain ⟨some_name, some_word, free⟩ := (List.isChain_cons_cons.1 behind).1
        rw [h.2 _ (List.getLast_mem some_name), Bool.true_and] at free
        rw [List.flatten_cons, List.head?_append_of_ne_nil _ some_word,
          List.head?_eq_some_head some_word, Option.any_some, free]

def underscored (line name : Text) : Text :=
  (underscore? name line).getD line

theorem words_underscored (h : Plain name) (line : Text) :
    words (underscored line name) = (words line).replace name ('_' :: name) := by
  unfold underscored
  rcases underscore?_cases name line with ⟨front, back, found, first⟩ | ⟨missing, absent⟩
  · have cut := words_of_free h first.free_before first.free_behind
    have before : name ∉ words front := by
      intro met
      obtain ⟨above, below, split⟩ := List.append_of_mem met
      rw [split, ← first.cut, List.append_assoc, List.cons_append] at cut
      have earlier := first.first _ _ (word_of_words h cut)
      have shorter := congrArg (fun ws : List Text => ws.flatten.length) split
      have some_name := List.length_pos_iff.2 h.1
      simp only [flatten_words, List.flatten_append, List.flatten_cons, List.length_append]
        at shorter
      omega
    have changed := words_of_free h.prefixed first.free_before first.free_behind
    rw [← first.cut] at cut
    rw [found, Option.getD_some, cut, List.replace_append, if_neg before, List.replace_cons_self]
    exact changed
  · have nowhere : name ∉ words line := by
      intro met
      obtain ⟨above, below, split⟩ := List.append_of_mem met
      exact absent _ _ (word_of_words h split)
    rw [missing, Option.getD_none, List.replace_of_not_mem nowhere]

def atOnce : List Text → List Text → List Text
  | _, [] => []
  | names, word :: rest =>
      if names.contains word then ('_' :: word) :: atOnce (names.erase word) rest
      else word :: atOnce names rest

theorem atOnce_of_mem {word : Text} (asked : word ∈ names) (rest : List Text) :
    atOnce names (word :: rest) = ('_' :: word) :: atOnce (names.erase word) rest := by
  rw [atOnce, if_pos (List.contains_iff_mem.2 asked)]

theorem atOnce_of_not_mem {word : Text} (unasked : word ∉ names) (rest : List Text) :
    atOnce names (word :: rest) = word :: atOnce names rest := by
  rw [atOnce, if_neg (mt List.contains_iff_mem.1 unasked)]

def inTurn (names ws : List Text) : List Text :=
  names.foldl (fun ws name => ws.replace name ('_' :: name)) ws

def Exposed (ws : List Text) (name : Text) : Prop :=
  ws.idxOf name < ws.idxOf ('_' :: name)

instance : Decidable (Exposed ws name) := inferInstanceAs (Decidable (_ < _))

theorem underscore_cons_ne (name : Text) : '_' :: name ≠ name :=
  List.cons_ne_self '_' name

theorem replace_cons_of_ne {word new : Text} (h : word ≠ name) (rest : List Text) :
    (word :: rest).replace name new = word :: rest.replace name new := by
  rw [List.replace_cons, beq_false_of_ne h.symm]

theorem exposed_cons_iff {word : Text} (h : word ≠ name) (h' : word ≠ '_' :: name) :
    Exposed (word :: rest) name ↔ Exposed rest name := by
  unfold Exposed
  rw [List.idxOf_cons_ne rest h, List.idxOf_cons_ne rest h']
  exact Nat.succ_lt_succ_iff

theorem exposed_cons_self : Exposed (name :: rest) name := by
  unfold Exposed
  rw [List.idxOf_cons_self, List.idxOf_cons_ne rest (underscore_cons_ne name).symm]
  exact Nat.succ_pos _

theorem idxOf_replace {new : Text} (apart : other ≠ name)
    (met : other = new → ws.idxOf new ≤ ws.idxOf name) :
    (ws.replace name new).idxOf other = ws.idxOf other := by
  induction ws with
  | nil => rfl
  | cons word rest ih =>
      by_cases here : word = name
      · subst here
        have new_apart : new ≠ other := by
          rintro rfl
          have first := met rfl
          rw [List.idxOf_cons_self, List.idxOf_cons_ne rest apart.symm] at first
          omega
        rw [List.replace_cons_self, List.idxOf_cons_ne rest new_apart,
          List.idxOf_cons_ne rest apart.symm]
      · rw [replace_cons_of_ne here]
        by_cases found : word = other
        · subst found
          rw [List.idxOf_cons_self, List.idxOf_cons_self]
        · rw [List.idxOf_cons_ne _ found, List.idxOf_cons_ne _ found, ih]
          rintro rfl
          have first := met rfl
          rw [List.idxOf_cons_ne rest found, List.idxOf_cons_ne rest here] at first
          omega

theorem idxOf_replace_le {new : Text} (apart : other ≠ name) (ws : List Text) :
    (ws.replace name new).idxOf other ≤ ws.idxOf other := by
  induction ws with
  | nil => exact Nat.le_refl _
  | cons word rest ih =>
      by_cases here : word = name
      · subst here
        rw [List.replace_cons_self, List.idxOf_cons_ne rest apart.symm, List.idxOf_cons]
        cases new == other <;> simp
      · rw [replace_cons_of_ne here]
        by_cases found : word = other
        · subst found
          rw [List.idxOf_cons_self, List.idxOf_cons_self]
        · rw [List.idxOf_cons_ne _ found, List.idxOf_cons_ne _ found]
          exact Nat.succ_le_succ ih

theorem Exposed.of_replace (exposed : Exposed (ws.replace name ('_' :: name)) other)
    (apart : other ≠ name) (apart' : '_' :: other ≠ name)
    (settled : other = '_' :: name → ¬ Exposed ws name) : Exposed ws other := by
  have behind : (ws.replace name ('_' :: name)).idxOf ('_' :: other) = ws.idxOf ('_' :: other) :=
    idxOf_replace apart' fun same => absurd (List.cons.inj same).2 apart
  have here : (ws.replace name ('_' :: name)).idxOf other = ws.idxOf other :=
    idxOf_replace apart fun same => Nat.le_of_not_lt (settled same)
  unfold Exposed at exposed ⊢
  rwa [behind, here] at exposed

theorem Exposed.replace (exposed : Exposed ws name) (apart : name ≠ other)
    (apart' : '_' :: name ≠ other) : Exposed (ws.replace other ('_' :: other)) name := by
  have behind : (ws.replace other ('_' :: other)).idxOf ('_' :: name) = ws.idxOf ('_' :: name) :=
    idxOf_replace apart' fun same => absurd (List.cons.inj same).2 apart
  unfold Exposed at exposed ⊢
  rw [behind]
  exact Nat.lt_of_le_of_lt (idxOf_replace_le apart ws) exposed

theorem Exposed.inTurn (exposed : Exposed ws name) (apart : name ∉ names)
    (apart' : '_' :: name ∉ names) : Exposed (inTurn names ws) name := by
  induction names generalizing ws with
  | nil => exact exposed
  | cons first rest ih =>
      rw [List.mem_cons, not_or] at apart apart'
      exact ih (exposed.replace apart.1 apart'.1) apart.2 apart'.2

def firstsUnderscored (names ws : List Text) : List Text :=
  ws.mapIdx fun k word => if names.contains word && ws.idxOf word == k then '_' :: word else word

theorem atOnce_eq_firstsUnderscored (nodup : names.Nodup) :
    atOnce names ws = firstsUnderscored names ws := by
  induction ws generalizing names with
  | nil => rfl
  | cons word rest ih =>
      have later : ∀ names' : List Text, names'.Nodup →
          (∀ other, other ≠ word → (other ∈ names' ↔ other ∈ names)) → word ∉ names' →
          atOnce names' rest = rest.mapIdx fun k other =>
            if names.contains other && (word :: rest).idxOf other == k + 1 then '_' :: other
            else other := by
        intro names' nodup' same gone
        rw [ih nodup', firstsUnderscored]
        congr 1
        funext k other
        by_cases again : other = word
        · subst again
          rw [List.idxOf_cons_self]
          simp [gone]
        · rw [List.idxOf_cons_ne rest (Ne.symm again)]
          simp [same other again]
      rw [firstsUnderscored, List.mapIdx_cons, List.idxOf_cons_self]
      by_cases asked : word ∈ names
      · rw [atOnce_of_mem asked, later _ (nodup.erase word)
          (fun other apart => List.mem_erase_of_ne apart) nodup.not_mem_erase]
        simp [asked]
      · rw [atOnce_of_not_mem asked, later names nodup (fun _ _ => Iff.rfl) asked]
        simp [asked]

theorem atOnce_replace (nodup : names.Nodup) (new : name ∉ names)
    (settled : '_' :: name ∈ names → ¬ Exposed ws name) :
    atOnce names (ws.replace name ('_' :: name)) = atOnce (name :: names) ws := by
  induction ws generalizing names with
  | nil => rfl
  | cons word rest ih =>
      by_cases here : word = name
      · subst here
        have unasked : '_' :: word ∉ names := fun asked => settled asked exposed_cons_self
        rw [List.replace_cons_self, atOnce_of_not_mem unasked,
          atOnce_of_mem (List.mem_cons_self ..), List.erase_cons_head]
      · have asked_iff : word ∈ name :: names ↔ word ∈ names := by simp [here]
        rw [replace_cons_of_ne here]
        by_cases asked : word ∈ names
        · rw [atOnce_of_mem asked, atOnce_of_mem (asked_iff.2 asked),
            List.erase_cons_tail (by simpa using Ne.symm here),
            ih (nodup.erase word) fun old => new (List.mem_of_mem_erase old)]
          intro asked'
          have other := (nodup.mem_erase_iff.1 asked').1
          exact mt (exposed_cons_iff here other.symm).2 (settled (List.mem_of_mem_erase asked'))
        · rw [atOnce_of_not_mem asked, atOnce_of_not_mem (mt asked_iff.1 asked), ih nodup new]
          intro asked'
          have other : word ≠ '_' :: name := fun same => asked (same ▸ asked')
          exact mt (exposed_cons_iff here other).2 (settled asked')

theorem inTurn_eq_atOnce (nodup : names.Nodup)
    (settled : ∀ name ∈ names, '_' :: name ∈ names → ¬ Exposed ws name) :
    inTurn names ws = atOnce names ws := by
  induction names generalizing ws with
  | nil =>
      have none_asked : ∀ ws : List Text, atOnce [] ws = ws := by
        intro ws
        induction ws with
        | nil => rfl
        | cons word rest ih => rw [atOnce_of_not_mem List.not_mem_nil, ih]
      exact (none_asked ws).symm
  | cons name rest ih =>
      obtain ⟨new, nodup⟩ := List.nodup_cons.1 nodup
      have here := settled name (List.mem_cons_self ..)
      rw [← atOnce_replace nodup new fun asked => here (List.mem_cons_of_mem _ asked)]
      refine ih nodup fun other asked asked' exposed => ?_
      refine settled other (List.mem_cons_of_mem _ asked) (List.mem_cons_of_mem _ asked') ?_
      refine exposed.of_replace (fun same => new (same ▸ asked))
        (fun same => new (same ▸ asked')) ?_
      rintro rfl
      exact here (List.mem_cons_of_mem _ asked)

theorem inTurn_swap_ne (exposed : Exposed ws name) :
    inTurn [name, '_' :: name] ws ≠ inTurn ['_' :: name, name] ws := by
  show (ws.replace name ('_' :: name)).replace ('_' :: name) ('_' :: '_' :: name) ≠
    (ws.replace ('_' :: name) ('_' :: '_' :: name)).replace name ('_' :: name)
  induction ws with
  | nil => exact absurd exposed (Nat.lt_irrefl _)
  | cons word rest ih =>
      by_cases here : word = name
      · subst here
        rw [List.replace_cons_self, List.replace_cons_self,
          replace_cons_of_ne (underscore_cons_ne word).symm, List.replace_cons_self]
        exact fun same => underscore_cons_ne _ (List.cons.inj same).1
      · have apart : word ≠ '_' :: name := by
          rintro rfl
          unfold Exposed at exposed
          rw [List.idxOf_cons_self] at exposed
          exact Nat.not_lt_zero _ exposed
        rw [replace_cons_of_ne here, replace_cons_of_ne apart, replace_cons_of_ne apart,
          replace_cons_of_ne here]
        exact fun same => ih ((exposed_cons_iff here apart).1 exposed) (List.cons.inj same).2

theorem inTurn_append (first second ws : List Text) :
    inTurn (first ++ second) ws = inTurn second (inTurn first ws) :=
  List.foldl_append ..

theorem exposed_words_iff (h : Plain name) {line : Text} : Exposed (words line) name ↔
    ∃ front back, Word name line front back ∧
      ∀ front' back', Word ('_' :: name) line front' back' → front.length < front'.length := by
  unfold Exposed
  constructor
  · intro exposed
    have met : name ∈ words line :=
      List.idxOf_lt_length_iff.1 (Nat.lt_of_lt_of_le exposed List.idxOf_le_length)
    obtain ⟨above, below, cut, first⟩ := List.eq_append_cons_of_mem met
    refine ⟨_, _, word_of_words h cut, fun front' back' word => ?_⟩
    have cut' := words_of_free h.prefixed word.free_before word.free_behind
    rw [← word.cut, cut] at cut'
    have index : (words line).idxOf name = above.length := by
      rw [cut, List.idxOf_append_of_notMem first, List.idxOf_cons_self, Nat.add_zero]
    have index' : (words line).idxOf ('_' :: name) ≤ (words front').length := by
      rw [cut, cut', List.idxOf_append]
      split
      · exact List.idxOf_le_length
      · rw [List.idxOf_cons_self, Nat.zero_add]
    rcases List.append_eq_append_iff.1 cut' with ⟨more, ahead, split⟩ | ⟨more, ahead, _⟩
    · cases more with
      | nil => exact absurd (List.cons.inj split).1.symm (underscore_cons_ne name)
      | cons first more =>
          obtain ⟨rfl, _⟩ := List.cons.inj split
          have sizes := congrArg (fun ws : List Text => ws.flatten.length) ahead
          have some_name := List.length_pos_iff.2 h.1
          simp only [flatten_words, List.flatten_append, List.flatten_cons, List.length_append]
            at sizes
          omega
    · rw [ahead, List.length_append] at index
      omega
  · rintro ⟨front, back, word, ahead⟩
    have cut := words_of_free h word.free_before word.free_behind
    rw [← word.cut] at cut
    have before : '_' :: name ∉ words front := by
      intro met
      obtain ⟨above, below, split⟩ := List.append_of_mem met
      rw [split, List.append_assoc, List.cons_append] at cut
      have later := ahead _ _ (word_of_words h.prefixed cut)
      have sizes := congrArg (fun ws : List Text => ws.flatten.length) split
      simp only [flatten_words, List.flatten_append, List.length_append] at sizes
      omega
    rw [cut, List.idxOf_append_of_notMem before,
      List.idxOf_cons_ne _ (underscore_cons_ne name).symm, List.idxOf_append]
    split
    · exact Nat.lt_of_le_of_lt List.idxOf_le_length (by omega)
    · rw [List.idxOf_cons_self]
      omega

variable {lines : List Text} {unused first second : UnusedName} {asked : List UnusedName}

def namesOn (asked : List UnusedName) (i : Nat) : List Text :=
  (asked.filter (·.line = (i : Int) + 1)).map (·.name)

theorem namesOn_cons (unused : UnusedName) (asked : List UnusedName) (i : Nat) :
    namesOn (unused :: asked) i =
      if unused.line = i + 1 then unused.name :: namesOn asked i else namesOn asked i := by
  unfold namesOn
  rw [List.filter_cons]
  split <;> simp_all

theorem namesOn_append (asked asked' : List UnusedName) (i : Nat) :
    namesOn (asked ++ asked') i = namesOn asked i ++ namesOn asked' i := by
  simp [namesOn]

theorem mem_namesOn {i : Nat} : name ∈ namesOn asked i ↔
    ∃ unused ∈ asked, unused.line = i + 1 ∧ unused.name = name := by
  simp [namesOn, and_assoc]

theorem nodup_namesOn {file : Text} (one_file : ∀ unused ∈ asked, unused.file = file)
    (distinct : asked.Nodup) (i : Nat) : (namesOn asked i).Nodup := by
  refine List.Nodup.map_on ?_ (distinct.filter _)
  intro unused member unused' member' same
  simp only [List.mem_filter, decide_eq_true_eq] at member member'
  have same_file := (one_file unused member.1).trans (one_file unused' member'.1).symm
  have same_line := member.2.trans member'.2.symm
  cases unused
  cases unused'
  simp_all

theorem lines_step (state : Renaming) (unused : UnusedName) :
    (state.step unused).lines = (renameOn? state.lines unused).getD state.lines := by
  unfold Renaming.step
  cases renameOn? state.lines unused <;> rfl

theorem renameOn?_getD_of_declared {above : List Text} (declared : unused.line = above.length + 1)
    (line : Text) (below : List Text) :
    (renameOn? (above ++ line :: below) unused).getD (above ++ line :: below) =
      above ++ underscored line unused.name :: below := by
  unfold underscored
  rw [renameOn?_of_declared declared]
  cases underscore? unused.name line <;> rfl

theorem getElem?_lines_step (state : Renaming) (unused : UnusedName) (i : Nat) :
    (state.step unused).lines[i]? = state.lines[i]?.map fun line =>
      if unused.line = i + 1 then underscored line unused.name else line := by
  rw [lines_step]
  rcases outside_or_declared state.lines unused with far | ⟨above, line, below, split, declared⟩
  · rw [renameOn?_of_outside far, Option.getD_none]
    cases there : state.lines[i]? with
    | none => rfl
    | some line =>
        have inside := (List.getElem?_eq_some_iff.1 there).1
        rw [Option.map_some, if_neg (by omega)]
  · rw [split, renameOn?_getD_of_declared declared]
    by_cases here : above.length = i
    · subst here
      rw [getElem?_length, getElem?_length, Option.map_some, if_pos declared]
    · simp only [if_neg (show ¬ unused.line = i + 1 by omega), Option.map_id_fun', id_eq]
      rcases Nat.lt_or_ge i above.length with ahead | behind
      · rw [List.getElem?_append_left ahead, List.getElem?_append_left ahead]
      · obtain ⟨k, more⟩ : ∃ k, i - above.length = k + 1 := ⟨i - above.length - 1, by omega⟩
        rw [List.getElem?_append_right behind, List.getElem?_append_right behind, more,
          List.getElem?_cons_succ, List.getElem?_cons_succ]

theorem getElem?_lines_rename (text : Text) (asked : List UnusedName) (i : Nat) :
    (rename text asked).lines[i]? =
      (LineEnding.lf.split text)[i]?.map fun line => (namesOn asked i).foldl underscored line := by
  suffices ∀ state : Renaming, (asked.foldl Renaming.step state).lines[i]? =
      state.lines[i]?.map fun line => (namesOn asked i).foldl underscored line from
    this ⟨LineEnding.lf.split text, [], []⟩
  induction asked with
  | nil => exact fun state => (Option.map_id' ..).symm
  | cons unused rest ih =>
      intro state
      rw [List.foldl_cons, ih, getElem?_lines_step, Option.map_map]
      congr 1
      funext line
      rw [namesOn_cons]
      by_cases here : unused.line = i + 1
      · rw [if_pos here, List.foldl_cons, Function.comp_apply, if_pos here]
      · rw [if_neg here, Function.comp_apply, if_neg here]

theorem words_foldl (plain : ∀ name ∈ names, Plain name) (line : Text) :
    words (names.foldl underscored line) = inTurn names (words line) := by
  induction names generalizing line with
  | nil => rfl
  | cons name rest ih =>
      obtain ⟨here, later⟩ := List.forall_mem_cons.1 plain
      rw [List.foldl_cons, ih later, words_underscored here]
      rfl

/-- The text with each name underscored where it first stands as a word on the line, as the line
was, that declares it. -/
def renamedAtOnce (text : Text) (asked : List UnusedName) : Text :=
  LineEnding.lf.join <| (LineEnding.lf.split text).mapIdx fun i line =>
    (firstsUnderscored (namesOn asked i) (words line)).flatten

/-- Two names of one line, the second being the first with an underscore: the first stands there
and the second does not stand before it. -/
inductive Clash : List Text → UnusedName → UnusedName → Prop
  | mk {above below : List Text} {line front back : Text} {first second : UnusedName}
      (declared : first.line = above.length + 1) (same_line : second.line = first.line)
      (prefixed : second.name = '_' :: first.name) (word : Word first.name line front back)
      (ahead : ∀ front' back', Word second.name line front' back' → front.length < front'.length) :
      Clash (above ++ line :: below) first second

theorem clash_iff (plain : Plain first.name) : Clash lines first second ↔
    second.line = first.line ∧ second.name = '_' :: first.name ∧ ∃ (i : Nat) (line : Text),
      lines[i]? = some line ∧ first.line = i + 1 ∧ Exposed (words line) first.name := by
  constructor
  · rintro @⟨above, below, line, front, back, _, _, declared, same_line, prefixed, word, ahead⟩
    rw [prefixed] at ahead
    exact ⟨same_line, prefixed, above.length, line, getElem?_length .., declared,
      (exposed_words_iff plain).2 ⟨front, back, word, ahead⟩⟩
  · rintro ⟨same_line, prefixed, i, line, there, declared, exposed⟩
    obtain ⟨inside, rfl⟩ := List.getElem?_eq_some_iff.1 there
    obtain ⟨front, back, word, ahead⟩ := (exposed_words_iff plain).1 exposed
    rw [← prefixed] at ahead
    have split := List.take_append_drop i lines
    rw [List.drop_eq_getElem_cons inside] at split
    rw [← split]
    exact .mk (by rw [List.length_take_of_le (Nat.le_of_lt inside)]; exact declared) same_line
      prefixed word ahead

theorem text_rename_eq_atOnce {file : Text} (one_file : ∀ unused ∈ asked, unused.file = file)
    (plain : ∀ unused ∈ asked, Plain unused.name) (distinct : asked.Nodup)
    (settled : ∀ first ∈ asked, ∀ second ∈ asked, ¬ Clash (LineEnding.lf.split text) first second) :
    (rename text asked).text = renamedAtOnce text asked := by
  refine congrArg LineEnding.lf.join (List.ext_getElem? fun i => ?_)
  rw [getElem?_lines_rename, List.getElem?_mapIdx]
  cases there : (LineEnding.lf.split text)[i]? with
  | none => rfl
  | some line =>
      have plain_here : ∀ name ∈ namesOn asked i, Plain name := by
        intro name member
        obtain ⟨unused, known, _, rfl⟩ := mem_namesOn.1 member
        exact plain unused known
      have nodup := nodup_namesOn one_file distinct i
      have turns := words_foldl plain_here line
      rw [inTurn_eq_atOnce nodup, atOnce_eq_firstsUnderscored nodup] at turns
      · rw [Option.map_some, Option.map_some, ← turns, flatten_words]
      · intro name member member' exposed
        obtain ⟨first, asked_first, declared, rfl⟩ := mem_namesOn.1 member
        obtain ⟨second, asked_second, declared', prefixed⟩ := mem_namesOn.1 member'
        refine settled first asked_first second asked_second
          ((clash_iff (plain first asked_first)).2
            ⟨declared'.trans declared.symm, prefixed, i, line, there, declared, exposed⟩)

theorem renamedAtOnce_perm {asked' : List UnusedName} (same : asked.Perm asked') (text : Text) :
    renamedAtOnce text asked = renamedAtOnce text asked' := by
  have on_each : ∀ i word, (namesOn asked i).contains word = (namesOn asked' i).contains word :=
    fun i _ => ((same.filter _).map _).contains_eq
  unfold renamedAtOnce firstsUnderscored
  simp only [on_each]

theorem text_rename_swap_ne {file : Text} {rest : List UnusedName}
    (one_file : ∀ unused ∈ rest ++ [first, second], unused.file = file)
    (plain : ∀ unused ∈ rest ++ [first, second], Plain unused.name)
    (distinct : (rest ++ [first, second]).Nodup)
    (clash : Clash (LineEnding.lf.split text) first second) :
    (rename text (rest ++ [first, second])).text ≠
      (rename text (rest ++ [second, first])).text := by
  obtain ⟨same_line, prefixed, i, line, there, declared, exposed⟩ :=
    (clash_iff (plain first (by simp))).1 clash
  have on_line : namesOn (rest ++ [first, second]) i =
      namesOn rest i ++ [first.name, second.name] := by
    rw [namesOn_append, namesOn_cons, if_pos declared, namesOn_cons,
      if_pos (same_line.trans declared)]
    rfl
  have on_line' : namesOn (rest ++ [second, first]) i =
      namesOn rest i ++ [second.name, first.name] := by
    rw [namesOn_append, namesOn_cons, if_pos (same_line.trans declared), namesOn_cons,
      if_pos declared]
    rfl
  have plain_here : ∀ name ∈ namesOn rest i ++ [first.name, second.name], Plain name := by
    intro name member
    rw [← on_line] at member
    obtain ⟨unused, known, _, rfl⟩ := mem_namesOn.1 member
    exact plain unused known
  have plain_here' : ∀ name ∈ namesOn rest i ++ [second.name, first.name], Plain name := by
    intro name member
    refine plain_here name ?_
    simpa [or_comm, or_left_comm] using member
  have nodup := nodup_namesOn one_file distinct i
  rw [on_line, List.nodup_append] at nodup
  have apart : first.name ∉ namesOn rest i := fun member => nodup.2.2 _ member _ (by simp) rfl
  have apart' : second.name ∉ namesOn rest i := fun member => nodup.2.2 _ member _ (by simp) rfl
  intro same
  have same_lines := congrArg LineEnding.lf.split same
  rw [split_text_rename, split_text_rename] at same_lines
  have same_here := congrArg (fun lines : List Text => lines[i]?.map words) same_lines
  simp only [getElem?_lines_rename, there, Option.map_some, Option.some.injEq] at same_here
  rw [on_line, on_line', words_foldl plain_here, words_foldl plain_here', inTurn_append,
    inTurn_append, prefixed] at same_here
  rw [prefixed] at apart'
  exact inTurn_swap_ne (exposed.inTurn apart apart') same_here

theorem not_clash_of_any_order {file : Text} (one_file : ∀ unused ∈ asked, unused.file = file)
    (plain : ∀ unused ∈ asked, Plain unused.name) (distinct : asked.Nodup)
    (any_order : ∀ other, other.Perm asked → (rename text other).text = (rename text asked).text)
    (known : first ∈ asked) (known' : second ∈ asked) :
    ¬ Clash (LineEnding.lf.split text) first second := by
  intro clash
  have apart : second ≠ first := by
    rintro rfl
    exact underscore_cons_ne _ ((clash_iff (plain _ known)).1 clash).2.1.symm
  have later : second ∈ asked.erase first := (List.mem_erase_of_ne apart).2 known'
  have last : asked.Perm ((asked.erase first).erase second ++ [first, second]) := by
    refine (List.perm_cons_erase known).trans (((List.perm_cons_erase later).cons first).trans ?_)
    show ([first, second] ++ (asked.erase first).erase second).Perm _
    exact List.perm_append_comm
  have swapped : ((asked.erase first).erase second ++ [second, first]).Perm asked :=
    ((List.Perm.swap first second []).append_left _).trans last.symm
  refine text_rename_swap_ne (fun unused member => one_file unused (last.mem_iff.2 member))
    (fun unused member => plain unused (last.mem_iff.2 member)) (last.nodup_iff.1 distinct) clash ?_
  rw [any_order _ last.symm, any_order _ swapped]

theorem rename_in_any_order_iff {file : Text} (text : Text)
    (one_file : ∀ unused ∈ asked, unused.file = file)
    (plain : ∀ unused ∈ asked, Plain unused.name) (distinct : asked.Nodup) :
    ((∀ other, other.Perm asked → (rename text other).text = (rename text asked).text) ↔
      ∀ first ∈ asked, ∀ second ∈ asked, ¬ Clash (LineEnding.lf.split text) first second) ∧
    ((∀ other, other.Perm asked → (rename text other).text = renamedAtOnce text asked) ↔
      ∀ first ∈ asked, ∀ second ∈ asked, ¬ Clash (LineEnding.lf.split text) first second) := by
  have settled (any_order : ∀ other, other.Perm asked →
      (rename text other).text = (rename text asked).text) :
      ∀ first ∈ asked, ∀ second ∈ asked, ¬ Clash (LineEnding.lf.split text) first second :=
    fun first known second known' =>
      not_clash_of_any_order one_file plain distinct any_order known known'
  have at_once (apart : ∀ first ∈ asked, ∀ second ∈ asked,
      ¬ Clash (LineEnding.lf.split text) first second) (other : List UnusedName)
      (same : other.Perm asked) : (rename text other).text = renamedAtOnce text asked := by
    rw [← renamedAtOnce_perm same]
    exact text_rename_eq_atOnce (fun unused member => one_file unused (same.subset member))
      (fun unused member => plain unused (same.subset member)) (same.nodup_iff.2 distinct)
      fun first known second known' => apart first (same.subset known) second (same.subset known')
  refine ⟨⟨settled, fun apart other same => ?_⟩, fun all => settled fun other same => ?_, at_once⟩
  · rw [at_once apart other same, at_once apart asked (.refl _)]
  · rw [all other same, all asked (.refl _)]

theorem rename_in_any_order_iff_ahead :
    let text : Text := "const _x = f(x, x);"
    let asked : List UnusedName := [⟨"a.tsx", "x", 1⟩, ⟨"a.tsx", "_x", 1⟩]
    (∀ unused ∈ asked, unused.file = "a.tsx" ∧ Plain unused.name) ∧ asked.Nodup ∧
      ∀ other, other.Perm asked → (rename text other).text = "const __x = f(_x, x);".toList := by
  intro text asked
  have known : ∀ unused ∈ asked, unused.file = "a.tsx".toList ∧ Plain unused.name := by
    decide +kernel
  have distinct : asked.Nodup := by decide
  have on_first : ∀ unused ∈ asked, unused.line = 1 := by decide
  have hidden : ∀ first ∈ asked, ∀ second ∈ asked, second.name = '_' :: first.name →
      ¬ Exposed (words text) first.name := by decide +kernel
  have apart : ∀ first ∈ asked, ∀ second ∈ asked,
      ¬ Clash (LineEnding.lf.split text) first second := by
    intro first member second member' clash
    obtain ⟨_, prefixed, i, line, there, declared, exposed⟩ :=
      (clash_iff (known first member).2).1 clash
    obtain rfl : i = 0 := by
      have := on_first first member
      omega
    have whole : text = line := Option.some.inj there
    exact hidden first member second member' prefixed (whole ▸ exposed)
  obtain ⟨_, at_once⟩ := rename_in_any_order_iff text (fun unused member => (known unused member).1)
    (fun unused member => (known unused member).2) distinct
  exact ⟨known, distinct, fun other same => (at_once.2 apart other same).trans (by decide +kernel)⟩

theorem rename_order_matters_behind :
    let text : Text := "const x = 1, _x = 2;\n"
    let first : UnusedName := ⟨"a.tsx", "x", 1⟩
    let second : UnusedName := ⟨"a.tsx", "_x", 1⟩
    [first, second].Nodup ∧ (∀ unused ∈ [first, second], Plain unused.name) ∧
      [second, first].Perm [first, second] ∧
      (rename text [first, second]).text = "const __x = 1, _x = 2;\n".toList ∧
      (rename text [second, first]).text = "const _x = 1, __x = 2;\n".toList := by
  intro text first second
  exact ⟨by decide +kernel, by decide +kernel, .swap _ _ _, by decide +kernel, by decide +kernel⟩

end UnusedNames

end DiagnosticRepair
