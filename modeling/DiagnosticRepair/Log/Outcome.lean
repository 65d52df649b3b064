import DiagnosticRepair.Log.Entry
import DiagnosticRepair.Path.Basic

namespace DiagnosticRepair

structure Outcome where
  touched : List Path
  entries : List Entry
  deriving DecidableEq

namespace Outcome

def empty : Outcome := ⟨[], []⟩

def ofEntries (entries : List Entry) : Outcome := ⟨[], entries⟩

def ofEntry (entry : Entry) : Outcome := ofEntries [entry]

def warnings (outcome : Outcome) : List Text :=
  (outcome.entries.filter (·.category.isWarning)).map (·.message)

def add (first second : Outcome) : Outcome :=
  ⟨first.touched ++ second.touched.filter (!first.touched.contains ·),
    first.entries ++ second.entries⟩

instance : Add Outcome := ⟨add⟩

def sum (outcomes : List Outcome) : Outcome :=
  outcomes.foldl add empty

@[simp]
theorem entries_add (a b : Outcome) : (a + b).entries = a.entries ++ b.entries := rfl

@[simp]
theorem warnings_add (a b : Outcome) : (a + b).warnings = a.warnings ++ b.warnings := by
  simp [warnings]

theorem mem_touched_add (a b : Outcome) (path : Path) :
    path ∈ (a + b).touched ↔ path ∈ a.touched ∨ path ∈ b.touched := by
  show path ∈ a.touched ++ b.touched.filter (!a.touched.contains ·) ↔ _
  by_cases h : path ∈ a.touched <;> simp [h]

end Outcome

end DiagnosticRepair
