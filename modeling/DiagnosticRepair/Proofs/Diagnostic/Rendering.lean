import DiagnosticRepair.Pass.Report
import DiagnosticRepair.Proofs.Diagnostic.Digits
import DiagnosticRepair.Proofs.Path.Reading
import DiagnosticRepair.Proofs.Text.Reading

namespace DiagnosticRepair

namespace Text

theorem lines_cons_of_noTerminator {c : Char} (h : isTerminator c = false) (rest : Text) :
    lines (c :: rest) = match lines rest with
      | [] => [[c]]
      | line :: more => (c :: line) :: more := by
  have plain : c ≠ '\r' := by
    rintro rfl
    cases h
  rw [lines.eq_3 _ _ (fun _ same _ => plain same), h]
  rfl

theorem noTerminator_of_mem_lines (text : Text) :
    ∀ line ∈ lines text, ∀ c ∈ line, isTerminator c = false := by
  fun_induction lines text with
  | case1 => simp
  | case2 rest ih => exact List.forall_mem_cons.2 ⟨by simp, ih⟩
  | case3 c rest _ ends ih => exact List.forall_mem_cons.2 ⟨by simp, ih⟩
  | case4 c rest _ goes none_left ih => simpa using goes
  | case5 c rest _ goes line more others ih =>
      rw [others, List.forall_mem_cons] at ih
      exact List.forall_mem_cons.2 ⟨List.forall_mem_cons.2 ⟨by simpa using goes, ih.1⟩, ih.2⟩

theorem noFeed_of_mem_lines {text line : Text} (h : line ∈ lines text) : '\n' ∉ line := by
  intro feed
  cases noTerminator_of_mem_lines text line h '\n' feed

theorem noFeed_ofNat (n : Nat) : '\n' ∉ ofNat n := by
  intro feed
  cases Nat.isDigit_of_mem_toDigits (by decide) (by decide) feed

theorem noFeed_ofInt (n : Int) : '\n' ∉ ofInt n := by
  cases n with
  | ofNat n => exact noFeed_ofNat n
  | negSucc n =>
      rw [ofInt, List.mem_cons, not_or]
      exact ⟨by decide, noFeed_ofNat (n + 1)⟩

end Text

namespace Diagnostic

variable {text line output file : Text} {marker : Marker} {diagnostic : Diagnostic}
  {diagnostics : List Diagnostic}

theorem Marker.message_isSuffix (h : Marker.read? text = some marker) :
    marker.message <:+ text := by
  have step {start text rest : Text} (read : Text.after? start text = some rest) : rest <:+ text :=
    ⟨start, (Text.eq_append_of_after? read).symm⟩
  have skip {p : Char → Bool} {text run rest : Text} (read : Text.run? p text = some (run, rest)) :
      rest <:+ text := ⟨run, (Text.eq_of_run? read).2.2.2.symm⟩
  simp only [Marker.read?, Option.bind_eq_bind, Option.bind_eq_some_iff, Prod.exists] at h
  obtain ⟨_, opened, _, _, line, _, comma, _, _, column, _, error, code, _, named, message, colon,
    read⟩ := h
  split at read
  · cases read
  · cases read
    exact (step colon).trans <| (skip named).trans <| (step error).trans <| (skip column).trans <|
      (step comma).trans <| (skip line).trans (step opened)

theorem eq_append_of_findMarker? (h : findMarker? text = some (file, marker)) :
    ∃ rest, text = file ++ rest ∧ Marker.read? rest = some marker := by
  induction text generalizing file with
  | nil => cases h
  | cons c rest ih =>
      rw [findMarker?] at h
      cases read : Marker.read? rest with
      | some here =>
          rw [read] at h
          cases h
          exact ⟨rest, rfl, read⟩
      | none =>
          rw [read] at h
          obtain ⟨⟨shorter, later⟩, found, same⟩ := Option.map_eq_some_iff.1 h
          cases same
          obtain ⟨others, rfl, read'⟩ := ih found
          exact ⟨others, rfl, read'⟩

theorem infix_of_ofLine? (h : ofLine? line = .ok (some diagnostic)) :
    diagnostic.file <:+: line ∧ diagnostic.message <:+: line := by
  unfold ofLine? at h
  cases found : findMarker? (Text.trim line) with
  | none =>
      simp only [found] at h
      cases h
  | some pair =>
      obtain ⟨file, marker⟩ := pair
      obtain ⟨rest, split, read⟩ := eq_append_of_findMarker? found
      have inside := Text.trim_isInfix line
      rw [split] at inside
      simp only [found] at h
      cases number : Text.readDigits marker.line with
      | error e => simp [number, bind, Except.bind] at h
      | ok line =>
          cases column : Text.readDigits marker.column with
          | error e => simp [number, column, bind, Except.bind] at h
          | ok column =>
              simp only [number, column, bind, Except.bind, Except.ok.injEq, Option.some.injEq] at h
              subst h
              exact ⟨(List.prefix_append file rest).isInfix.trans inside,
                (Marker.message_isSuffix read).isInfix.trans
                  ((List.suffix_append file rest).isInfix.trans inside)⟩

theorem noFeed_render (parsed : parse output = .ok diagnostics)
    (member : diagnostic ∈ diagnostics) : '\n' ∉ diagnostic.render := by
  obtain ⟨line, listed, read⟩ := (mem_of_ofLines parsed).1 member
  obtain ⟨file, message⟩ := infix_of_ofLine? read
  have apart := Text.noFeed_of_mem_lines listed
  have plain : '\n' ∉ diagnostic.file ∧ '\n' ∉ diagnostic.message :=
    ⟨fun feed => apart (file.subset feed), fun feed => apart (message.subset feed)⟩
  simp [render, location, plain, Text.noFeed_ofInt]

end Diagnostic

namespace Report

variable {report : Report}

theorem upTo_ofNat {α : Type} (limit : Nat) (items : List α) :
    upTo limit items = items.take limit := by
  rw [upTo, if_neg (by omega)]
  rfl

theorem split_summary (named : '\n' ∉ report.tool)
    (plain : ∀ diagnostic ∈ report.remaining, '\n' ∉ diagnostic.render) :
    LineEnding.lf.split report.summary =
      (report.tool ++ ": fixed files " ++ Text.ofNat report.numTouched) :: report.verdict := by
  refine Text.splitOn_join '\n' _ (by simp) (List.forall_mem_cons.2 ⟨?_, ?_⟩)
  · simp [named, Text.noFeed_ofNat]
  · unfold verdict
    split
    · simp [named]
    · split
      · simp [named]
      · refine List.forall_mem_cons.2 ⟨by simp [named, Text.noFeed_ofNat], ?_⟩
        intro line listed
        obtain ⟨diagnostic, member, rfl⟩ := List.mem_map.1 listed
        have remains := plain diagnostic (List.mem_of_mem_take member)
        simp [remains]

end Report

end DiagnosticRepair
