import DiagnosticRepair.Diagnostic.Remedy
import DiagnosticRepair.Log.Outcome

namespace DiagnosticRepair

/-- An unused name and the line, counted from one, that declares it. -/
structure UnusedName where
  file : Text
  name : Text
  line : Int
  deriving DecidableEq

/-- Lists by key, in the order in which keys were first met. -/
abbrev Grouped (α : Type) := List (Text × List α)

namespace Grouped

variable {α : Type}

def modify (f : List α → List α) (key : Text) : Grouped α → Grouped α
  | [] => [(key, f [])]
  | group :: rest =>
      if group.1 = key then (key, f group.2) :: rest else group :: modify f key rest

def get (groups : Grouped α) (key : Text) : List α :=
  (groups.lookup key).getD []

theorem get_modify (f : List α → List α) (key other : Text) :
    ∀ groups : Grouped α, (modify f key groups).get other =
      if other = key then f (groups.get key) else groups.get other
  | [] => by
      by_cases h : other = key
      · simp [modify, get, h]
      · simp [modify, get, List.lookup_cons, h, beq_false_of_ne h]
  | (k, values) :: rest => by
      have ih := get_modify f key other rest
      unfold modify
      by_cases same : k = key
      · subst same
        by_cases h : other = k
        · simp [get, h]
        · simp [get, List.lookup_cons, h, beq_false_of_ne h]
      · by_cases h : other = k
        · subst h
          simp [get, same]
        · simp only [same, if_false, get, List.lookup_cons, beq_false_of_ne h] at ih ⊢
          rw [ih]
          by_cases h' : other = key
          · subst h'
            simp [beq_false_of_ne h]
          · simp [h']

end Grouped

def appendNew {α : Type} [DecidableEq α] (values : List α) (value : α) : List α :=
  if value ∈ values then values else values ++ [value]

namespace Plan

def imports (diagnostics : List Diagnostic) : Grouped Text :=
  diagnostics.foldl
    (fun groups diagnostic =>
      match (Remedy.ofDiagnostic diagnostic).statement? with
      | some statement => groups.modify (appendNew · statement) diagnostic.file
      | none => groups)
    []

def unusedName? (diagnostic : Diagnostic) : Option UnusedName :=
  match Remedy.ofDiagnostic diagnostic with
  | .underscore name => some ⟨diagnostic.file, name, diagnostic.line⟩
  | _ => none

def unusedNames (diagnostics : List Diagnostic) : List UnusedName :=
  (diagnostics.filterMap unusedName?).foldl appendNew []

def perFile (names : List UnusedName) : Grouped UnusedName :=
  names.foldl (fun groups name => groups.modify (· ++ [name]) name.file) []

def review (diagnostics : List Diagnostic) : Outcome :=
  .ofEntries <|
    (diagnostics.filter fun diagnostic => !(Remedy.ofDiagnostic diagnostic).isFixable).map
      fun diagnostic =>
        ⟨.warning, "Manual review needed in " ++ diagnostic.location ++ ": "
          ++ (Remedy.ofDiagnostic diagnostic).reason⟩

end Plan

end DiagnosticRepair
