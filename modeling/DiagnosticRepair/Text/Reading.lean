import DiagnosticRepair.Text.Basic

namespace DiagnosticRepair.Text

def after? (start text : Text) : Option Text :=
  if start.isPrefixOf text then some (text.drop start.length) else none

def run? (p : Char → Bool) (text : Text) : Option (Text × Text) :=
  let run := text.takeWhile p
  if run.isEmpty then none else some (run, text.dropWhile p)

theorem after?_append (start rest : Text) : after? start (start ++ rest) = some rest := by
  simp [after?]

theorem eq_append_of_after? {start text rest : Text} (h : after? start text = some rest) :
    text = start ++ rest := by
  unfold after? at h
  split at h
  · rename_i found
    obtain ⟨tail, rfl⟩ := List.isPrefixOf_iff_prefix.1 found
    simpa using h
  · cases h

end DiagnosticRepair.Text
