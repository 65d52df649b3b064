import DiagnosticRepair.Path.Basic

namespace DiagnosticRepair

abbrev Location := List FileName

namespace Location

def step (here : Location) : Step → Location
  | .up => here.dropLast
  | .down name => here ++ [name]

def follow (here : Location) (steps : List Step) : Location :=
  steps.foldl step here

def path (location : Location) : Path :=
  ⟨.root, location.map .down⟩

def wayTo : Location → Location → List Step
  | a :: here, b :: there =>
      if a = b then wayTo here there
      else List.replicate (here.length + 1) .up ++ (b :: there).map .down
  | [], there => there.map .down
  | here, [] => List.replicate here.length .up

theorem follow_append (here : Location) (s t : List Step) :
    here.follow (s ++ t) = (here.follow s).follow t :=
  List.foldl_append ..

theorem follow_down (here there : Location) : here.follow (there.map .down) = here ++ there := by
  induction there generalizing here with
  | nil => simp [follow]
  | cons name rest ih =>
      simpa [follow, step] using ih (here ++ [name])

theorem follow_up (here : Location) (n : Nat) :
    here.follow (List.replicate n .up) = here.take (here.length - n) := by
  induction n generalizing here with
  | zero => simp [follow]
  | succ n ih =>
      show Location.follow here.dropLast (List.replicate n .up) = _
      rw [ih, List.dropLast_eq_take, List.take_take, List.length_take]
      congr 1
      omega

theorem follow_wayTo (shared here there : Location) :
    (shared ++ here).follow (wayTo here there) = shared ++ there := by
  induction here generalizing shared there with
  | nil =>
      cases there with
      | nil => simp [wayTo, follow]
      | cons b there =>
          rw [List.append_nil]
          exact follow_down shared (b :: there)
  | cons a here ih =>
      cases there with
      | nil => simp [wayTo, follow_up]
      | cons b there =>
          unfold wayTo
          split
          · rename_i h
            subst h
            simpa using ih (shared ++ [a]) there
          · rw [follow_append, follow_down, follow_up]
            simp

end Location

namespace Path

def location (here : Location) (path : Path) : Location :=
  Location.follow (if path.isAbsolute then [] else here) path.steps

def normalize (here : Location) (path : Path) : Path :=
  (path.location here).path

end Path

end DiagnosticRepair
