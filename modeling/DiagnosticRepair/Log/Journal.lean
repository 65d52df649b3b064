import DiagnosticRepair.Log.Outcome

namespace DiagnosticRepair

structure Journal where
  touched : List Path
  warnings : List Text
  entries : List Entry
  deriving DecidableEq

namespace Journal

def empty : Journal := ⟨[], [], []⟩

def insertNew (paths : List Path) (path : Path) : List Path :=
  if path ∈ paths then paths else paths ++ [path]

def extend (journal : Journal) (outcome : Outcome) : Journal :=
  ⟨outcome.touched.foldl insertNew journal.touched,
    journal.warnings ++ outcome.warnings,
    journal.entries ++ outcome.entries⟩

def note (journal : Journal) (entry : Entry) : Journal :=
  journal.extend (.ofEntry entry)

theorem mem_insertNew (paths : List Path) (path other : Path) :
    other ∈ insertNew paths path ↔ other ∈ paths ∨ other = path := by
  unfold insertNew
  split
  · rename_i h
    exact ⟨Or.inl, fun found => found.elim id (· ▸ h)⟩
  · simp

theorem mem_touched_extend (journal : Journal) (outcome : Outcome) (path : Path) :
    path ∈ (journal.extend outcome).touched ↔ path ∈ journal.touched ∨ path ∈ outcome.touched := by
  suffices ∀ (new old : List Path), path ∈ new.foldl insertNew old ↔ path ∈ old ∨ path ∈ new from
    this outcome.touched journal.touched
  intro new
  induction new with
  | nil => simp
  | cons p rest ih =>
      intro old
      rw [List.foldl_cons, ih, mem_insertNew, List.mem_cons, or_assoc]

end Journal

end DiagnosticRepair
