import DiagnosticRepair.Proofs.Disk.Listing

namespace DiagnosticRepair

namespace Text

variable {s t u : Text}

def Before : Text → Text → Prop :=
  List.Lex fun a b => a.toNat < b.toNat

theorem Before.ne (ahead : Before s t) : s ≠ t := by
  rintro rfl
  exact List.lex_irrefl (fun c => Nat.lt_irrefl c.toNat) s ahead

theorem Before.asymm (ahead : Before s t) : ¬ Before t s :=
  List.lex_asymm (fun less => Nat.lt_asymm less) ahead

theorem Before.trans (ahead : Before s t) (ahead' : Before t u) : Before s u :=
  List.lex_trans Nat.lt_trans ahead ahead'

theorem eq_of_not_before (h : ¬ Before s t) (h' : ¬ Before t s) : s = t :=
  List.lex_trichotomous
    (fun _ _ less less' => Char.toNat_inj.1 (Nat.le_antisymm (Nat.le_of_not_lt less')
      (Nat.le_of_not_lt less))) h' h

theorem le_iff : le s t = true ↔ Before s t ∨ s = t := by
  induction s generalizing t with
  | nil =>
      refine iff_of_true (by simp [le]) ?_
      cases t with
      | nil => exact .inr rfl
      | cons b t => exact .inl .nil
  | cons a s ih =>
      cases t with
      | nil =>
          refine iff_of_false (by simp [le]) ?_
          rintro (⟨⟨⟩⟩ | same)
          cases same
      | cons b t =>
          have less : a < b ↔ a.toNat < b.toNat := Iff.rfl
          rw [Before, List.cons_lex_cons_iff, List.cons.injEq]
          simp only [le, Bool.or_eq_true, Bool.and_eq_true, decide_eq_true_eq, beq_iff_eq, ih, less,
            Before, and_or_left, or_assoc]

theorem le_trans (h : le s t = true) (h' : le t u = true) : le s u = true := by
  rw [le_iff] at h h' ⊢
  rcases h with ahead | rfl
  · rcases h' with ahead' | rfl
    · exact .inl (ahead.trans ahead')
    · exact .inl ahead
  · exact h'

theorem le_total (s t : Text) : le s t = true ∨ le t s = true := by
  rw [le_iff, le_iff]
  by_cases ahead : Before s t
  · exact .inl (.inl ahead)
  · by_cases back : Before t s
    · exact .inr (.inl back)
    · exact .inl (.inr (eq_of_not_before ahead back))

end Text

section Sorting

variable {α : Type}

theorem eq_of_pairwise {r : α → α → Prop} (asymm : ∀ {a b}, r a b → ¬ r b a) {l l' : List α}
    (sorted : l.Pairwise r) (sorted' : l'.Pairwise r) (same : ∀ a, a ∈ l ↔ a ∈ l') : l = l' := by
  have apart : ∀ {a b}, r a b → a ≠ b := by
    rintro a _ ahead rfl
    exact asymm ahead ahead
  have perm := (List.perm_ext_iff_of_nodup (sorted.imp apart) (sorted'.imp apart)).2 same
  exact perm.eq_of_pairwise (fun _ _ _ _ ahead back => absurd back (asymm ahead)) sorted sorted'

end Sorting

namespace FileName

instance : Std.Total fun first second => le first second = true :=
  ⟨fun _ _ => Text.le_total _ _⟩

instance : IsTrans FileName fun first second => le first second = true :=
  ⟨fun _ _ _ => Text.le_trans⟩

theorem increasing_sortBy {names : List FileName} (distinct : names.Nodup) :
    (sortBy le names).Pairwise fun first second => Text.Before first.text second.text := by
  have sorted : (sortBy le names).Pairwise fun first second => le first second = true := by
    rw [sortBy_eq_insertionSort]
    exact List.pairwise_insertionSort _ names
  have apart := (sortBy_perm le names).nodup_iff.2 distinct
  exact (sorted.and apart).imp fun ⟨before, apart⟩ =>
    (Text.le_iff.1 before).resolve_right fun same => apart (ext_text same)

end FileName

namespace Disk

theorem increasing_children (disk : Disk) (location : Location) :
    (disk.children location).Pairwise fun first second => Text.Before first.text second.text :=
  FileName.increasing_sortBy (disk.nodup_listing location)

end Disk

end DiagnosticRepair
