import DiagnosticRepair.Diagnostic.Plan

namespace DiagnosticRepair.UnusedNames

/-- The names that the checker reports. Only for names without a backslash is `underscore?` what the
program does, which takes the name it puts back for a template. -/
def Plain (name : Text) : Prop :=
  name ≠ [] ∧ ∀ c ∈ name, Text.isNameChar c = true

instance : DecidablePred Plain := fun name =>
  decidable_of_iff (name ≠ [] ∧ name.all Text.isNameChar = true) (by simp [Plain])

def standsAt (name text : Text) : Bool :=
  name.isPrefixOf text && !(text.drop name.length).head?.any Text.isNameChar

/-- Puts an underscore before the leftmost whole-word occurrence; `joined` tells whether the
character before the text belongs to a name. -/
def underscoreFrom (name : Text) : Bool → Text → Option Text
  | joined, [] => if !joined && name.isEmpty then some ['_'] else none
  | joined, c :: rest =>
      if !joined && standsAt name (c :: rest) then some ('_' :: c :: rest)
      else (underscoreFrom name (Text.isNameChar c) rest).map (c :: ·)

def underscore? (name line : Text) : Option Text :=
  underscoreFrom name false line

def renameOn? (lines : List Text) (unused : UnusedName) : Option (List Text) :=
  if unused.line < 1 then none
  else
    match lines[(unused.line - 1).toNat]? with
    | none => none
    | some line => (underscore? unused.name line).map (lines.set (unused.line - 1).toNat ·)

structure Renaming where
  lines : List Text
  renamed : List UnusedName
  missed : List UnusedName

def Renaming.step (state : Renaming) (unused : UnusedName) : Renaming :=
  match renameOn? state.lines unused with
  | some lines => { state with lines, renamed := state.renamed ++ [unused] }
  | none => { state with missed := state.missed ++ [unused] }

def rename (text : Text) (names : List UnusedName) : Renaming :=
  names.foldl Renaming.step ⟨LineEnding.lf.split text, [], []⟩

def Renaming.text (state : Renaming) : Text :=
  LineEnding.lf.join state.lines

def description (unused : UnusedName) : Text :=
  "Renamed unused '" ++ unused.name ++ "' on line " ++ Text.ofInt unused.line

def Renaming.descriptions (state : Renaming) : List Text :=
  state.renamed.map description

theorem length_renameOn? {lines lines' : List Text} {unused : UnusedName}
    (h : renameOn? lines unused = some lines') : lines'.length = lines.length := by
  unfold renameOn? at h
  split at h
  · cases h
  · split at h
    · cases h
    · obtain ⟨line, _, rfl⟩ := Option.map_eq_some_iff.1 h
      exact List.length_set ..

end DiagnosticRepair.UnusedNames
