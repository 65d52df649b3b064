import DiagnosticRepair.Proofs.Component
import DiagnosticRepair.Proofs.Text.Endings

namespace DiagnosticRepair

theorem Char.eq_of_ofNat_eq_slash {code : Nat} (h : Char.ofNat code = '/') : code = 47 := by
  by_cases valid : code.isValidChar
  · rw [Char.ofNat, dif_pos valid] at h
    exact congrArg Char.toNat h
  · rw [Char.ofNat, dif_neg valid] at h
    cases h

namespace CharShift

theorem image?_ne_slash {shift : CharShift} {c image : Char}
    (above : 47 < Int.ofNat shift.first + shift.offset) (h : shift.image? c = some image) :
    image ≠ '/' := by
  unfold image? at h
  simp only at h
  split at h
  · rename_i inside
    rw [Bool.and_eq_true, Bool.and_eq_true, decide_eq_true_eq] at inside
    obtain rfl := Option.some.inj h
    intro same
    have code := Char.eq_of_ofNat_eq_slash same
    have first : Int.ofNat shift.first ≤ Int.ofNat c.toNat := Int.ofNat_le.2 inside.1.1
    omega
  · cases h

theorem applyTable_ne_slash {table : List CharShift} {c : Char}
    (above : ∀ shift ∈ table, 47 < Int.ofNat shift.first + shift.offset) (h : c ≠ '/') :
    applyTable table c ≠ '/' := by
  unfold applyTable
  cases found : table.findSome? (·.image? c) with
  | none => exact h
  | some image =>
      obtain ⟨shift, member, shifted⟩ := List.exists_of_findSome?_eq_some found
      exact image?_ne_slash (above shift member) shifted

end CharShift

namespace Text

theorem upperShifts_above : ∀ shift ∈ upperShifts, 47 < Int.ofNat shift.first + shift.offset := by
  decide +kernel

theorem upperExpansions_noSlash : ∀ expansion ∈ upperExpansions, '/' ∉ expansion.2 := by
  decide +kernel

theorem slash_not_mem_upperChar {c : Char} (h : c ≠ '/') : '/' ∉ upperChar c := by
  unfold upperChar
  cases found : upperExpansions.find? (·.1 == c.toNat) with
  | none =>
      intro member
      exact CharShift.applyTable_ne_slash upperShifts_above h (List.mem_singleton.1 member).symm
  | some expansion => exact upperExpansions_noSlash expansion (List.mem_of_find?_eq_some found)

theorem slash_not_mem_capitalize {text : Text} (h : '/' ∉ text) : '/' ∉ capitalize text := by
  cases text with
  | nil => exact h
  | cons c rest =>
      rw [List.mem_cons, not_or] at h
      rw [capitalize, List.mem_append, not_or]
      exact ⟨slash_not_mem_upperChar (Ne.symm h.1), h.2⟩

end Text

namespace Component

theorem mem_of_mem_words {p : Char → Bool} {c : Char} {text word : Text}
    (h : word ∈ text.splitOnP p) (member : c ∈ word) : c ∈ text := by
  induction text generalizing word with
  | nil =>
      rw [List.splitOnP_nil, List.mem_singleton] at h
      rwa [h] at member
  | cons d rest ih =>
      rw [List.splitOnP_cons_eq_if_modifyHead] at h
      split at h
      · rcases List.mem_cons.1 h with rfl | later
        · cases member
        · exact List.mem_cons_of_mem _ (ih later member)
      · rcases Text.mem_of_mem_modifyHead h member with rfl | ⟨piece, inside, found⟩
        · exact List.mem_cons_self ..
        · exact List.mem_cons_of_mem _ (ih inside found)

theorem slash_not_mem_nameOfDirectory {directory : Text} (h : '/' ∉ directory) :
    '/' ∉ nameOfDirectory directory := by
  unfold nameOfDirectory
  simp only
  split
  · decide
  · rw [List.mem_flatMap]
    rintro ⟨word, member, slash⟩
    have inside : '/' ∉ word := fun found => h (mem_of_mem_words (List.mem_filter.1 member).1 found)
    exact Text.slash_not_mem_capitalize inside slash

theorem ofDirectory?_name {disk : Disk} {directory : Path} {entries : List FileName}
    {component : Component} (h : ofDirectory? disk directory entries = .ok (some component)) :
    component.name = nameOfDirectory directory.name := by
  unfold ofDirectory? at h
  cases test : hasTest disk directory entries with
  | error e =>
      rw [test] at h
      cases h
  | ok found =>
      rw [test] at h
      cases found with
      | true => cases h
      | false =>
          cases asked : entries.filterM fun name => disk.isFile (directory.child name) with
          | error e => simp [bind, Except.bind, asked] at h
          | ok files =>
              simp only [bind, Except.bind, pure, Except.pure, asked, Bool.false_eq_true, if_false,
                Except.ok.injEq, Option.map_eq_some_iff] at h
              obtain ⟨file, _, rfl⟩ := h
              rfl

theorem ofEntry?_name {disk : Disk} {componentsRoot : Path} {name : FileName}
    {component : Component} (h : ofEntry? disk componentsRoot name = .ok (some component)) :
    component.name = nameOfDirectory name.text := by
  have named : (componentsRoot.child name).name = name.text := by
    simp [Path.name, Path.child, Step.text]
  unfold ofEntry? at h
  simp only at h
  cases asked : disk.isDirectory (componentsRoot.child name) with
  | error e =>
      rw [asked] at h
      cases h
  | ok inside =>
      rw [asked] at h
      simp only [bind, Except.bind] at h
      split at h
      · cases h
      · rw [ofDirectory?_name h, named]

theorem noSlash_of_mem_untested {disk : Disk} {componentsRoot : Path} {components : List Component}
    {component : Component} (h : untested disk componentsRoot = .ok components)
    (member : component ∈ components) : '/' ∉ component.name := by
  obtain ⟨name, found, _⟩ := exists_of_mem_untested h member
  rw [ofEntry?_name found]
  exact slash_not_mem_nameOfDirectory name.valid.2.2.2

end Component

end DiagnosticRepair
