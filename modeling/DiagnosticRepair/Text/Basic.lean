namespace DiagnosticRepair

abbrev Text := List Char

instance : Coe String Text := ⟨String.toList⟩

namespace Text

def occursIn (needle : Text) : Text → Bool
  | [] => needle.isEmpty
  | c :: rest => needle.isPrefixOf (c :: rest) || occursIn needle rest

def replaceFirst (old new : Text) : Text → Text
  | [] => if old.isEmpty then new else []
  | c :: rest =>
      if old.isPrefixOf (c :: rest) then new ++ (c :: rest).drop old.length
      else c :: replaceFirst old new rest

def splitFrom (separator : Text) : Nat → Text → List Text
  | _, [] => [[]]
  | skip + 1, _ :: rest => splitFrom separator skip rest
  | 0, c :: rest =>
      if separator.isPrefixOf (c :: rest) then
        [] :: splitFrom separator (separator.length - 1) rest
      else (splitFrom separator 0 rest).modifyHead (c :: ·)

def splitOn (separator text : Text) : List Text :=
  splitFrom separator 0 text

def join (separator : Text) (pieces : List Text) : Text :=
  separator.intercalate pieces

def replaceAll (old new text : Text) : Text :=
  if old.isEmpty then text.foldr (fun c rest => new ++ c :: rest) new
  else join new (splitOn old text)

theorem splitFrom_ne_nil (separator : Text) :
    ∀ (skip : Nat) (text : Text), splitFrom separator skip text ≠ []
  | _, [] => by simp [splitFrom]
  | skip + 1, _ :: rest => by
      simpa [splitFrom] using splitFrom_ne_nil separator skip rest
  | 0, c :: rest => by
      have ih := splitFrom_ne_nil separator 0 rest
      unfold splitFrom
      split
      · simp
      · cases h : splitFrom separator 0 rest with
        | nil => exact absurd h ih
        | cons _ _ => simp

theorem splitOn_ne_nil (separator text : Text) : splitOn separator text ≠ [] :=
  splitFrom_ne_nil separator 0 text

theorem join_cons_cons (separator p q : Text) (rest : List Text) :
    join separator (p :: q :: rest) = p ++ separator ++ join separator (q :: rest) := by
  simp [join, List.intercalate, List.intersperse]

theorem join_singleton (separator p : Text) : join separator [p] = p := by
  simp [join, List.intercalate, List.intersperse]

theorem join_modifyHead (separator : Text) (c : Char) (pieces : List Text) (h : pieces ≠ []) :
    join separator (pieces.modifyHead (c :: ·)) = c :: join separator pieces := by
  match pieces, h with
  | [p], _ => simp [join_singleton]
  | p :: q :: rest, _ => simp [join_cons_cons]

theorem join_splitFrom (separator : Text) (h : separator ≠ []) :
    ∀ (skip : Nat) (text : Text),
      join separator (splitFrom separator skip text) = text.drop skip
  | _, [] => by simp [splitFrom, join_singleton]
  | skip + 1, _ :: rest => by
      simpa [splitFrom] using join_splitFrom separator h skip rest
  | 0, c :: rest => by
      unfold splitFrom
      split
      · rename_i found
        obtain ⟨tail, split⟩ := List.isPrefixOf_iff_prefix.1 found
        have ih := join_splitFrom separator h (separator.length - 1) rest
        cases pieces : splitFrom separator (separator.length - 1) rest with
        | nil => exact absurd pieces (splitFrom_ne_nil _ _ _)
        | cons p ps =>
            rw [pieces] at ih
            rw [join_cons_cons, ih]
            cases separator with
            | nil => exact absurd rfl h
            | cons s ss =>
                simp only [List.cons_append, List.cons.injEq] at split
                simp [← split.1, ← split.2]
      · rw [join_modifyHead _ _ _ (splitFrom_ne_nil _ _ _), join_splitFrom separator h 0 rest]
        simp

theorem join_splitOn (separator text : Text) (h : separator ≠ []) :
    join separator (splitOn separator text) = text := by
  simpa [splitOn] using join_splitFrom separator h 0 text

end Text

end DiagnosticRepair
