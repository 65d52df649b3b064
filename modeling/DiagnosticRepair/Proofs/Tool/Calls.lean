import DiagnosticRepair.Tool.Invocation

namespace DiagnosticRepair

variable {call : Call} {words words' : List Text} {directory directory' : Path}
  {world world' : World} {e : CallError} {output : Option Text}

theorem ToolResult.answer_returns_iff {result : ToolResult} :
    (∃ output, result.answer words = .ok output) ↔ ∀ e, result ≠ .undecodable e := by
  cases result with
  | exited code stdout stderr =>
      refine iff_of_true ?_ fun e same => by cases same
      rw [answer]
      split
      · exact ⟨_, rfl⟩
      · simp only
        split <;> exact ⟨_, rfl⟩
  | undecodable e =>
      refine iff_of_false ?_ fun apart => apart e rfl
      rintro ⟨_, ended⟩
      cases ended
  | notStarted refusal program => exact iff_of_true ⟨_, rfl⟩ fun e same => by cases same

namespace Call

theorem error?_eq_none_iff : call.error? = none ↔ call.words ≠ [] ∧ call.hasNul = false := by
  rw [error?]
  cases call.hasNul <;> cases call.words <;> simp

end Call

namespace World

def run (world : World) (earlier : Nat) : ToolRun :=
  (world.script.drop earlier).head?.getD .clean

theorem run_zero_of_tail (later : world'.script = world.script.tail) : world'.run 0 = world.run 1 := by
  rw [run, run, later, List.drop_one]
  rfl

theorem call_of_error? (refused : Call.error? ⟨words, directory⟩ = some e) :
    world.call words directory = (.error e, world) := by
  rw [call, refused]

theorem call_of_none (made : Call.error? ⟨words, directory⟩ = none) :
    world.call words directory = world.start ⟨words, directory⟩ := by
  rw [call, made]

theorem error?_of_ok (answered : (world.call words directory).1 = .ok output) :
    Call.error? ⟨words, directory⟩ = none := by
  cases refused : Call.error? ⟨words, directory⟩ with
  | none => rfl
  | some e =>
      rw [call_of_error? refused] at answered
      cases answered

theorem fst_call_of_none (made : Call.error? ⟨words, directory⟩ = none) :
    (world.call words directory).1 = (world.run 0).result.answer words := by
  rw [call_of_none made]
  rfl

theorem fst_call_call_of_none (made : Call.error? ⟨words, directory⟩ = none)
    (made' : Call.error? ⟨words', directory'⟩ = none) :
    ((world.call words directory).2.call words' directory').1 =
      (world.run 1).result.answer words' := by
  rw [call_of_none made, fst_call_of_none made', run_zero_of_tail rfl]

theorem fst_call_of_script (same : world'.script = world.script) :
    (world'.call words directory).1 = (world.call words directory).1 := by
  cases refused : Call.error? ⟨words, directory⟩ with
  | none => rw [fst_call_of_none refused, fst_call_of_none refused, run, run, same]
  | some e => rw [call_of_error? refused, call_of_error? refused]

theorem call_returns_iff : (∃ output, (world.call words directory).1 = .ok output) ↔
    words ≠ [] ∧ Call.hasNul ⟨words, directory⟩ = false ∧
      ∀ e, (world.run 0).result ≠ .undecodable e := by
  rw [← and_assoc, ← @Call.error?_eq_none_iff ⟨words, directory⟩]
  cases refused : Call.error? ⟨words, directory⟩ with
  | none =>
      rw [fst_call_of_none refused, ToolResult.answer_returns_iff]
      exact (and_iff_right rfl).symm
  | some e =>
      rw [call_of_error? refused]
      refine iff_of_false ?_ fun both => by cases both.1
      rintro ⟨_, ended⟩
      cases ended

theorem call_cases (world : World) (words : List Text) (directory : Path) :
    (∃ e, world.call words directory = (.error e, world)) ∨
      world.call words directory = world.start ⟨words, directory⟩ := by
  cases refused : Call.error? ⟨words, directory⟩ with
  | none => exact .inr (call_of_none refused)
  | some e => exact .inl ⟨e, call_of_error? refused⟩

theorem call_keeps (Kept : World → Prop) (kept : Kept world)
    (started : ∀ call, Kept (world.start call).2) (words : List Text) (directory : Path) :
    Kept (world.call words directory).2 := by
  obtain ⟨e, refused⟩ | begun := world.call_cases words directory
  · rwa [refused]
  · rw [begun]
    exact started _

end World

end DiagnosticRepair
