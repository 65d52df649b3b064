import DiagnosticRepair.Source.Alias
import DiagnosticRepair.Proofs.Text.Occurrence
import Mathlib.Data.List.Infix
import Mathlib.Data.List.Perm.Basic
import Mathlib.Data.List.Nodup

namespace DiagnosticRepair

namespace Text

variable {needle old : Text} {text : Text}

def occurrences (needle : Text) : Text → Nat
  | [] => if needle.isEmpty then 1 else 0
  | c :: rest => (if needle.isPrefixOf (c :: rest) then 1 else 0) + occurrences needle rest

theorem occursIn_iff_occurrences : occursIn needle text = true ↔ 0 < occurrences needle text := by
  induction text with
  | nil =>
      unfold occursIn occurrences
      cases needle <;> simp
  | cons c rest ih =>
      rw [occursIn, occurrences, Bool.or_eq_true, ih]
      by_cases here : needle.isPrefixOf (c :: rest) = true
      · rw [if_pos here]
        exact iff_of_true (.inl here) (by omega)
      · rw [if_neg here, Nat.zero_add]
        exact or_iff_right here

theorem replaceFirst_of_absent (h : occursIn old text = false) (new : Text) :
    replaceFirst old new text = text := by
  induction text with
  | nil =>
      unfold occursIn at h
      rw [replaceFirst, if_neg (by simp [h])]
  | cons c rest ih =>
      rw [occursIn, Bool.or_eq_false_iff] at h
      rw [replaceFirst, if_neg (by simp [h.1]), ih h.2]

def FirstBehind (front needle text : Text) : Prop :=
  front ++ needle <+: text ∧ ∀ other, other ++ needle <+: text → front.length ≤ other.length

end Text

namespace Alias

variable {key other replacement front line text rest : Text} {relative : Text → Text}
  {entry entry' : Text × Text} {table table' : List (Text × Text)}

/-- An alias has the mark of aliases where it begins and only there, and no dots. -/
def Marked (key : Text) : Prop :=
  ∃ rest, key = '@' :: rest ∧ '@' ∉ rest ∧ '.' ∉ rest

instance : DecidablePred Marked
  | [] => isFalse fun ⟨_, empty, _⟩ => List.cons_ne_nil _ _ empty.symm
  | c :: rest => decidable_of_iff (c = '@' ∧ '@' ∉ rest ∧ '.' ∉ rest) (by simp [Marked])

def Dotted (replacement : Text) : Prop :=
  replacement.head? = some '.' ∧ '@' ∉ replacement

theorem Marked.ne_nil (h : Marked key) : key ≠ [] := by
  obtain ⟨rest, rfl, _⟩ := h
  exact List.cons_ne_nil _ _

theorem Marked.not_starts {c : Char} (h : Marked key) (unmarked : c ≠ '@') (rest : Text) :
    ¬ key <+: c :: rest := by
  obtain ⟨more, rfl, _⟩ := h
  exact fun starts => unmarked (List.cons_prefix_cons.1 starts).1.symm

theorem replaceFirst_append_self (some_key : key ≠ []) (replacement rest : Text) :
    Text.replaceFirst key replacement (key ++ rest) = replacement ++ rest := by
  cases key with
  | nil => exact absurd rfl some_key
  | cons c more =>
      have starts : (c :: more).isPrefixOf (c :: (more ++ rest)) = true :=
        List.isPrefixOf_iff_prefix.2 ⟨rest, rfl⟩
      rw [List.cons_append, Text.replaceFirst, if_pos starts, ← List.cons_append, List.drop_left]

theorem replaceFirst_cons {c : Char} (h : ¬ key <+: c :: rest) (replacement : Text) :
    Text.replaceFirst key replacement (c :: rest) =
      c :: Text.replaceFirst key replacement rest := by
  rw [Text.replaceFirst, if_neg (mt List.isPrefixOf_iff_prefix.1 h)]

theorem prefix_replaceFirst_iff (marked : Marked key) (dotted : Dotted replacement)
    {start : Text} (unmarked : '@' ∉ start) (dotless : '.' ∉ start) (text : Text) :
    start <+: Text.replaceFirst key replacement text ↔ start <+: text := by
  induction text generalizing start with
  | nil =>
      obtain ⟨more, rfl, _⟩ := marked
      exact Iff.rfl
  | cons d rest ih =>
      cases start with
      | nil => exact iff_of_true List.nil_prefix List.nil_prefix
      | cons c start =>
          rw [List.mem_cons, not_or] at unmarked dotless
          by_cases here : key <+: d :: rest
          · -- neither the mark of the alias nor the dot put in for it begins such a text
            obtain ⟨tail, whole⟩ := here
            obtain ⟨behind, rfl⟩ := List.head?_eq_some_iff.1 dotted.1
            rw [← whole, replaceFirst_append_self marked.ne_nil]
            obtain ⟨more, rfl, _⟩ := marked
            rw [List.cons_append, List.cons_append, List.cons_prefix_cons, List.cons_prefix_cons]
            exact iff_of_false (fun h => dotless.1 h.1.symm) fun h => unmarked.1 h.1.symm
          · rw [replaceFirst_cons here, List.cons_prefix_cons, List.cons_prefix_cons,
              ih unmarked.2 dotless.2]

theorem prefix_cons_replaceFirst_iff (marked : Marked key) (dotted : Dotted replacement)
    (other_marked : Marked other) (c : Char) (rest : Text) :
    other <+: c :: Text.replaceFirst key replacement rest ↔ other <+: c :: rest := by
  obtain ⟨more, rfl, unmarked, dotless⟩ := other_marked
  rw [List.cons_prefix_cons, List.cons_prefix_cons,
    prefix_replaceFirst_iff marked dotted unmarked dotless]

def Apart (key other : Text) : Prop :=
  key <+: other ∨ other <+: key → key = other

theorem Apart.prefix_append_iff (apart : Apart key other) (rest : Text) :
    other <+: key ++ rest ↔ key = other := by
  constructor
  · exact fun starts => apart (List.prefix_or_prefix_of_prefix (List.prefix_append key rest) starts)
  · rintro rfl
    exact List.prefix_append key rest

theorem occurrences_append (marked : Marked key) (unmarked : '@' ∉ front) (rest : Text) :
    Text.occurrences key (front ++ rest) = Text.occurrences key rest := by
  induction front with
  | nil => rfl
  | cons c front ih =>
      rw [List.mem_cons, not_or] at unmarked
      have elsewhere := marked.not_starts (Ne.symm unmarked.1) (front ++ rest)
      rw [List.cons_append, Text.occurrences, if_neg (mt List.isPrefixOf_iff_prefix.1 elsewhere),
        ih unmarked.2, Nat.zero_add]

theorem occurrences_key_append (marked : Marked key) (other_marked : Marked other)
    (apart : Apart key other) (rest : Text) : Text.occurrences other (key ++ rest) =
      (if key = other then 1 else 0) + Text.occurrences other rest := by
  have here := apart.prefix_append_iff rest
  obtain ⟨more, rfl, unmarked, _⟩ := marked
  rw [List.cons_append] at here ⊢
  rw [Text.occurrences, occurrences_append other_marked unmarked]
  simp only [List.isPrefixOf_iff_prefix, here]

theorem occurrences_replaceFirst (marked : Marked key) (dotted : Dotted replacement)
    (other_marked : Marked other) (apart : Apart key other)
    (found : Text.occursIn key text = true) :
    (if key = other then 1 else 0) +
      Text.occurrences other (Text.replaceFirst key replacement text) =
        Text.occurrences other text := by
  induction text with
  | nil => exact absurd (List.isEmpty_iff.1 found) marked.ne_nil
  | cons c rest ih =>
      by_cases here : key <+: c :: rest
      · obtain ⟨tail, whole⟩ := here
        rw [← whole, replaceFirst_append_self marked.ne_nil,
          occurrences_append other_marked dotted.2,
          occurrences_key_append marked other_marked apart]
      · rw [Text.occursIn, Bool.or_eq_true, List.isPrefixOf_iff_prefix] at found
        have later := ih (found.resolve_left here)
        have same := prefix_cons_replaceFirst_iff marked dotted other_marked c rest
        rw [replaceFirst_cons here, Text.occurrences, Text.occurrences]
        simp only [List.isPrefixOf_iff_prefix, same]
        omega

theorem replaceFirst_append (marked : Marked key) (unmarked : '@' ∉ front)
    (replacement rest : Text) : Text.replaceFirst key replacement (front ++ rest) =
      front ++ Text.replaceFirst key replacement rest := by
  induction front with
  | nil => rfl
  | cons c front ih =>
      rw [List.mem_cons, not_or] at unmarked
      rw [List.cons_append, replaceFirst_cons (marked.not_starts (Ne.symm unmarked.1) _),
        ih unmarked.2, List.cons_append]

theorem replaceFirst_key_append (marked : Marked key) (other_marked : Marked other)
    (apart : Apart key other) (different : key ≠ other) (replacement rest : Text) :
    Text.replaceFirst other replacement (key ++ rest) =
      key ++ Text.replaceFirst other replacement rest := by
  have here := mt (apart.prefix_append_iff rest).1 different
  obtain ⟨more, rfl, unmarked, _⟩ := marked
  rw [List.cons_append] at here ⊢
  rw [replaceFirst_cons here, replaceFirst_append other_marked unmarked, List.cons_append]

inductive Piece where
  | kept (c : Char)
  | replaced (entry : Text × Text)

namespace Piece

def original : Piece → Text
  | kept c => [c]
  | replaced entry => entry.1

def result (relative : Text → Text) : Piece → Text
  | kept c => [c]
  | replaced entry => relative entry.2

def entry? : Piece → Option (Text × Text)
  | kept _ => none
  | replaced entry => some entry

end Piece

def original (pieces : List Piece) : Text :=
  pieces.flatMap Piece.original

def result (relative : Text → Text) (pieces : List Piece) : Text :=
  pieces.flatMap (Piece.result relative)

theorem original_append (before after : List Piece) :
    original (before ++ after) = original before ++ original after :=
  List.flatMap_append ..

theorem result_append (before after : List Piece) :
    result relative (before ++ after) = result relative before ++ result relative after :=
  List.flatMap_append ..

theorem original_map_kept (text : Text) : original (text.map .kept) = text := by
  unfold original
  rw [List.flatMap_map]
  exact List.flatMap_singleton' text

theorem result_map_kept (text : Text) : result relative (text.map .kept) = text := by
  unfold result
  rw [List.flatMap_map]
  exact List.flatMap_singleton' text

/-- A scan of a line for the aliases of a table; one that has been met is passed over later. -/
inductive Scan : List (Text × Text) → List Piece → Prop
  | nil {table : List (Text × Text)} : Scan table []
  | kept {table : List (Text × Text)} {pieces : List Piece} {c : Char}
      (none : ∀ entry ∈ table, ¬ entry.1 <+: c :: original pieces)
      (later : Scan table pieces) : Scan table (.kept c :: pieces)
  | replaced {table : List (Text × Text)} {pieces : List Piece} {entry : Text × Text}
      (known : entry ∈ table) (later : Scan (table.erase entry) pieces) :
      Scan table (.replaced entry :: pieces)

structure Proper (table : List (Text × Text)) : Prop where
  nodup : table.Nodup
  marked : ∀ entry ∈ table, Marked entry.1
  apart : ∀ entry ∈ table, ∀ other ∈ table, entry.1 <+: other.1 → entry = other

namespace Proper

theorem keys_apart (proper : Proper table) (known : entry ∈ table) (known' : entry' ∈ table) :
    Apart entry.1 entry'.1 := by
  rintro (starts | starts)
  · rw [proper.apart entry known entry' known' starts]
  · rw [proper.apart entry' known' entry known starts]

theorem key_inj (proper : Proper table) (known : entry ∈ table) (known' : entry' ∈ table)
    (same : entry.1 = entry'.1) : entry = entry' :=
  proper.apart entry known entry' known' (same ▸ List.prefix_refl entry.1)

theorem of_sublist (proper : Proper table) (sub : table'.Sublist table) : Proper table' where
  nodup := proper.nodup.sublist sub
  marked entry known := proper.marked entry (sub.subset known)
  apart entry known other known' := proper.apart entry (sub.subset known) other (sub.subset known')

theorem erase (proper : Proper table) (entry : Text × Text) : Proper (table.erase entry) :=
  proper.of_sublist List.erase_sublist

theorem perm (proper : Proper table) (order : table'.Perm table) : Proper table' where
  nodup := order.nodup_iff.2 proper.nodup
  marked entry known := proper.marked entry (order.mem_iff.1 known)
  apart entry known other known' :=
    proper.apart entry (order.mem_iff.1 known) other (order.mem_iff.1 known')

end Proper

namespace Scan

variable {pieces before after : List Piece}

theorem perm (scan : Scan table pieces) (order : table.Perm table') : Scan table' pieces := by
  induction scan generalizing table' with
  | nil => exact .nil
  | kept none _ ih =>
      exact .kept (fun entry known => none entry (order.mem_iff.2 known)) (ih order)
  | replaced known _ ih => exact .replaced (order.mem_iff.1 known) (ih (order.erase _))

theorem mem_of_mem (scan : Scan table pieces) (h : .replaced entry ∈ pieces) : entry ∈ table := by
  induction scan with
  | nil => cases h
  | kept _ _ ih => exact ih ((List.mem_cons.1 h).resolve_left nofun)
  | replaced known _ ih =>
      rcases List.mem_cons.1 h with same | behind
      · cases same
        exact known
      · exact List.mem_of_mem_erase (ih behind)

theorem exists_original_eq (proper : Proper table) (line : Text) :
    ∃ pieces, Scan table pieces ∧ original pieces = line := by
  induction long : line.length using Nat.strong_induction_on generalizing line table with
  | _ n ih =>
    subst long
    cases line with
    | nil => exact ⟨[], .nil, rfl⟩
    | cons c rest =>
        by_cases met : ∃ entry ∈ table, entry.1 <+: c :: rest
        · obtain ⟨entry, known, tail, whole⟩ := met
          have shorter : tail.length < (c :: rest).length := by
            have some_key := List.length_pos_iff.2 (proper.marked entry known).ne_nil
            rw [← whole, List.length_append]
            omega
          obtain ⟨pieces, scan, read⟩ := ih tail.length shorter (proper.erase entry) tail rfl
          refine ⟨.replaced entry :: pieces, .replaced known scan, ?_⟩
          rw [← whole, ← read]
          rfl
        · obtain ⟨pieces, scan, read⟩ := ih rest.length (by simp) proper rest rfl
          subst read
          refine ⟨.kept c :: pieces, .kept ?_ scan, rfl⟩
          exact fun entry known here => met ⟨entry, known, here⟩

theorem kept_append (scan : Scan table pieces) (proper : Proper table) (unmarked : '@' ∉ text) :
    Scan table (text.map .kept ++ pieces) := by
  induction text with
  | nil => exact scan
  | cons c text ih =>
      rw [List.mem_cons, not_or] at unmarked
      exact .kept (fun entry known => (proper.marked entry known).not_starts (Ne.symm unmarked.1) _)
        (ih unmarked.2)

theorem replaceFirst (scan : Scan table pieces) (proper : Proper table)
    (dotted : ∀ entry ∈ table, Dotted (relative entry.2)) (known : entry ∈ table) :
    ∃ pieces', Scan (table.erase entry) pieces' ∧
      original pieces' = Text.replaceFirst entry.1 (relative entry.2) (original pieces) ∧
      result relative pieces' = result relative pieces := by
  induction scan with
  | nil =>
      obtain ⟨more, marked, _⟩ := proper.marked entry known
      exact ⟨[], .nil, by rw [marked]; rfl, rfl⟩
  | @kept table pieces c none _ ih =>
      obtain ⟨pieces', scan', read, same⟩ := ih proper dotted known
      have marked := proper.marked entry known
      refine ⟨.kept c :: pieces', .kept (fun other known' => ?_) scan', ?_, ?_⟩
      · have other_known := List.mem_of_mem_erase known'
        rw [read, prefix_cons_replaceFirst_iff marked (dotted entry known)
          (proper.marked other other_known)]
        exact none other other_known
      · show c :: original pieces' = Text.replaceFirst _ _ (c :: original pieces)
        rw [read, replaceFirst_cons (none entry known)]
      · exact congrArg (List.cons c) same
  | @replaced table pieces first first_known later ih =>
      have marked := proper.marked first first_known
      by_cases here : first = entry
      · -- what is put in stays in the line, as characters that no alias begins with
        subst here
        refine ⟨(relative first.2).map .kept ++ pieces,
          later.kept_append (proper.erase first) (dotted first known).2, ?_, ?_⟩
        · show _ = Text.replaceFirst _ _ (first.1 ++ original pieces)
          rw [replaceFirst_append_self marked.ne_nil, original_append, original_map_kept]
        · rw [result_append, result_map_kept]
          rfl
      · have known' : entry ∈ table.erase first := (List.mem_erase_of_ne (Ne.symm here)).2 known
        obtain ⟨pieces', scan', read, same⟩ := ih (proper.erase first)
          (fun other member => dotted other (List.mem_of_mem_erase member)) known'
        rw [List.erase_comm] at scan'
        refine ⟨.replaced first :: pieces',
          .replaced ((List.mem_erase_of_ne here).2 first_known) scan', ?_, ?_⟩
        · show first.1 ++ original pieces' = Text.replaceFirst _ _ (first.1 ++ original pieces)
          rw [read, replaceFirst_key_append marked (proper.marked entry known)
            (proper.keys_apart first_known known) (mt (proper.key_inj first_known known) here)]
        · exact congrArg (relative first.2 ++ ·) same

theorem original_eq_result (scan : Scan [] pieces) : original pieces = result relative pieces := by
  generalize empty : ([] : List (Text × Text)) = table at scan
  induction scan with
  | nil => rfl
  | kept _ _ ih => exact congrArg (List.cons _) (ih empty)
  | replaced known => exact absurd (empty ▸ known) List.not_mem_nil

end Scan

theorem line_step (state : Resolution) (entry : Text × Text) :
    (Resolution.step relative state entry).line =
      Text.replaceFirst entry.1 (relative entry.2) state.line := by
  unfold Resolution.step
  split
  · rfl
  · rename_i absent
    rw [Text.replaceFirst_of_absent (Bool.eq_false_iff.2 absent)]

theorem Scan.line_foldl_step {pieces : List Piece} (scan : Scan table pieces)
    (proper : Proper table) (dotted : ∀ entry ∈ table, Dotted (relative entry.2))
    {state : Resolution} (read : state.line = original pieces) :
    (table.foldl (Resolution.step relative) state).line = result relative pieces := by
  induction table generalizing pieces state with
  | nil => exact read.trans scan.original_eq_result
  | cons entry table ih =>
      obtain ⟨pieces', scan', read', same⟩ :=
        scan.replaceFirst proper dotted (List.mem_cons_self ..)
      rw [List.erase_cons_head] at scan'
      rw [List.foldl_cons, ← same]
      refine ih scan' (proper.of_sublist (List.sublist_cons_self ..))
        (fun other member => dotted other (List.mem_cons_of_mem _ member)) ?_
      rw [line_step, read, read']

def report (relative : Text → Text) (entry : Text × Text) : Text :=
  "Fixed import: " ++ entry.1 ++ " -> " ++ relative entry.2

theorem occurrences_step (proper : Proper table) (known : entry ∈ table)
    (known' : entry' ∈ table) (dotted : Dotted (relative entry.2)) (state : Resolution) :
    (if entry = entry' ∧ Text.occursIn entry.1 state.line = true then 1 else 0) +
      Text.occurrences entry'.1 (Resolution.step relative state entry).line =
        Text.occurrences entry'.1 state.line := by
  have same : entry.1 = entry'.1 ↔ entry = entry' := ⟨proper.key_inj known known', congrArg _⟩
  by_cases found : Text.occursIn entry.1 state.line = true
  · have taken := occurrences_replaceFirst (proper.marked entry known) dotted
      (proper.marked entry' known') (proper.keys_apart known known') found
    rw [line_step]
    simpa only [same, found, and_true] using taken
  · rw [line_step, Text.replaceFirst_of_absent (Bool.eq_false_iff.2 found),
      if_neg fun both => found both.2, Nat.zero_add]

theorem occursIn_step_of_ne (proper : Proper table) (known : entry ∈ table)
    (known' : entry' ∈ table) (dotted : Dotted (relative entry.2)) (different : entry ≠ entry')
    (state : Resolution) : Text.occursIn entry'.1 (Resolution.step relative state entry).line =
      Text.occursIn entry'.1 state.line := by
  have kept := occurrences_step proper known known' dotted state
  rw [if_neg fun both => different both.1, Nat.zero_add] at kept
  rw [Bool.eq_iff_iff, Text.occursIn_iff_occurrences, Text.occursIn_iff_occurrences, kept]

def contained (table : List (Text × Text)) (line : Text) : List (Text × Text) :=
  table.filter fun entry => Text.occursIn entry.1 line

theorem contained_cons (entry : Text × Text) (table : List (Text × Text)) (line : Text) :
    contained (entry :: table) line =
      if Text.occursIn entry.1 line then entry :: contained table line else contained table line :=
  List.filter_cons

theorem contained_congr {line' : Text} (h : ∀ entry ∈ table,
    Text.occursIn entry.1 line = Text.occursIn entry.1 line') :
    contained table line = contained table line' :=
  List.filter_congr h

theorem changes_foldl_step (proper : Proper table)
    (dotted : ∀ entry ∈ table, Dotted (relative entry.2)) (state : Resolution) :
    (table.foldl (Resolution.step relative) state).changes =
      state.changes ++ (contained table state.line).map (report relative) := by
  induction table generalizing state with
  | nil => exact (List.append_nil _).symm
  | cons entry table ih =>
      have known : entry ∈ entry :: table := List.mem_cons_self ..
      have later : contained table (Resolution.step relative state entry).line =
          contained table state.line := by
        refine contained_congr fun entry' known' => ?_
        refine occursIn_step_of_ne proper known (List.mem_cons_of_mem _ known')
          (dotted entry known) ?_ state
        rintro rfl
        exact (List.nodup_cons.1 proper.nodup).1 known'
      rw [List.foldl_cons, ih (proper.of_sublist (List.sublist_cons_self ..))
        (fun other member => dotted other (List.mem_cons_of_mem _ member)), later, contained_cons]
      unfold Resolution.step
      split
      · rw [List.map_cons, List.append_assoc]
        rfl
      · rfl

theorem occurrences_foldl_step (proper : Proper table)
    (dotted : ∀ entry ∈ table, Dotted (relative entry.2)) (known : entry ∈ table)
    (state : Resolution) :
    Text.occurrences entry.1 (table.foldl (Resolution.step relative) state).line =
      Text.occurrences entry.1 state.line - 1 := by
  suffices ∀ (rest : List (Text × Text)) (state : Resolution), rest.Sublist table →
      Text.occurrences entry.1 (rest.foldl (Resolution.step relative) state).line =
        Text.occurrences entry.1 state.line - if entry ∈ rest then 1 else 0 by
    rw [this table state (List.Sublist.refl table), if_pos known]
  intro rest
  induction rest with
  | nil => exact fun _ _ => rfl
  | cons first rest ih =>
      intro state sub
      have first_known := sub.subset (List.mem_cons_self ..)
      have step := occurrences_step proper first_known known (dotted first first_known) state
      rw [List.foldl_cons, ih _ ((List.sublist_cons_self ..).trans sub)]
      by_cases here : first = entry
      · subst here
        have found : Text.occursIn first.1 state.line = true ↔
            0 < Text.occurrences first.1 state.line := Text.occursIn_iff_occurrences
        rw [if_neg (List.nodup_cons.1 (proper.nodup.sublist sub)).1, if_pos (List.mem_cons_self ..)]
        simp only [true_and, found] at step
        split at step <;> omega
      · rw [if_neg fun both => here both.1, Nat.zero_add] at step
        simp only [step, List.mem_cons, Ne.symm here, false_or]

namespace Scan

variable {pieces before after : List Piece}

theorem occursIn_key_append (proper : Proper table) (known : entry ∈ table)
    (known' : entry' ∈ table) (different : entry ≠ entry') (rest : Text) :
    Text.occursIn entry'.1 (entry.1 ++ rest) = Text.occursIn entry'.1 rest := by
  have places := occurrences_key_append (proper.marked entry known) (proper.marked entry' known')
    (proper.keys_apart known known') rest
  rw [if_neg (mt (proper.key_inj known known') different), Nat.zero_add] at places
  rw [Bool.eq_iff_iff, Text.occursIn_iff_occurrences, Text.occursIn_iff_occurrences, places]

theorem replaced_perm (scan : Scan table pieces) (proper : Proper table) :
    (pieces.filterMap Piece.entry?).Perm (contained table (original pieces)) := by
  induction scan with
  | @nil table =>
      have nothing : contained table [] = [] := by
        refine List.filter_eq_nil_iff.2 fun entry known found => ?_
        exact (proper.marked entry known).ne_nil (List.isEmpty_iff.1 found)
      exact nothing ▸ List.Perm.refl _
  | @kept table pieces c none _ ih =>
      have same : contained table (c :: original pieces) = contained table (original pieces) := by
        refine contained_congr fun entry known => ?_
        rw [Text.occursIn, Bool.eq_false_iff.2 (mt List.isPrefixOf_iff_prefix.1 (none entry known)),
          Bool.false_or]
      exact same ▸ ih proper
  | @replaced table pieces entry known _ ih =>
      have others : contained (table.erase entry) (entry.1 ++ original pieces) =
          contained (table.erase entry) (original pieces) := by
        refine contained_congr fun other known' => ?_
        have different := (proper.nodup.mem_erase_iff.1 known').1
        exact occursIn_key_append proper known (List.mem_of_mem_erase known') different.symm _
      have here : Text.occursIn entry.1 (entry.1 ++ original pieces) = true :=
        Text.occursIn_iff_infix.2 (List.prefix_append ..).isInfix
      have whole : entry :: contained (table.erase entry) (original pieces) =
          contained (entry :: table.erase entry) (entry.1 ++ original pieces) := by
        rw [contained_cons, if_pos here, others]
      refine ((ih (proper.erase entry)).cons entry).trans ?_
      rw [whole]
      exact (List.perm_cons_erase known).symm.filter _

theorem exists_of_append_prefix (marked : Marked key) (other_marked : Marked other)
    (apart : Apart key other) (different : key ≠ other) (h : front ++ other <+: key ++ rest) :
    ∃ front', front = key ++ front' ∧ front' ++ other <+: rest := by
  obtain ⟨tail, whole⟩ := h
  rw [List.append_assoc] at whole
  rcases List.append_eq_append_iff.1 whole with ⟨more, split, behind⟩ | ⟨front', rfl, behind⟩
  · cases front with
    | nil => exact absurd ((apart.prefix_append_iff rest).1 ⟨tail, whole⟩) different
    | cons c front =>
        obtain ⟨_, marked, unmarked, _⟩ := marked
        obtain ⟨_, other_marked, _⟩ := other_marked
        cases more with
        | nil => exact ⟨[], by rw [split]; simp, tail, behind⟩
        | cons d more =>
            -- the other alias would begin at a mark inside of the first
            rw [marked, List.cons_append] at split
            obtain ⟨_, split⟩ := List.cons.inj split
            rw [other_marked, List.cons_append, List.cons_append] at behind
            obtain ⟨rfl, _⟩ := List.cons.inj behind
            exact absurd (split ▸ List.mem_append_right front (List.mem_cons_self ..)) unmarked
  · exact ⟨front', rfl, tail, by rw [List.append_assoc, behind]⟩

theorem firstBehind (scan : Scan table pieces) (proper : Proper table)
    (h : pieces = before ++ .replaced entry :: after) :
    Text.FirstBehind (original before) entry.1 (original pieces) := by
  refine ⟨⟨original after, by rw [h, original_append, List.append_assoc]; rfl⟩, ?_⟩
  induction scan generalizing before with
  | nil => cases before <;> cases h
  | @kept table pieces c none later ih =>
      cases before with
      | nil => cases h
      | cons first before =>
          obtain ⟨rfl, split⟩ : .kept c = first ∧ pieces = before ++ .replaced entry :: after :=
            List.cons.inj h
          have known : entry ∈ table := later.mem_of_mem (by simp [split])
          intro front here
          cases front with
          | nil => exact absurd here (none entry known)
          | cons d front =>
              have earliest := ih proper split front (List.cons_prefix_cons.1 here).2
              exact Nat.succ_le_succ earliest
  | @replaced table pieces first known later ih =>
      cases before with
      | nil => exact fun _ _ => Nat.zero_le _
      | cons piece before =>
          obtain ⟨rfl, split⟩ : .replaced first = piece ∧
            pieces = before ++ .replaced entry :: after := List.cons.inj h
          have member : entry ∈ table.erase first := later.mem_of_mem (by simp [split])
          obtain ⟨different, known'⟩ := proper.nodup.mem_erase_iff.1 member
          intro front here
          obtain ⟨front', rfl, here'⟩ := exists_of_append_prefix (proper.marked first known)
            (proper.marked entry known') (proper.keys_apart known known')
            (mt (proper.key_inj known known') different.symm) here
          have earliest := ih (proper.erase first) split front' here'
          show (first.1 ++ original before).length ≤ _
          rw [List.length_append, List.length_append]
          exact Nat.add_le_add_left earliest _

end Scan

end Alias

end DiagnosticRepair
