import DiagnosticRepair.Proofs.Disk.Change
import Mathlib.Data.List.Sort

namespace DiagnosticRepair

namespace Asking

variable {ε α β : Type} {items : List α}

theorem mapM_returns_iff {ask : α → Except ε β} :
    (∃ answers, items.mapM ask = .ok answers) ↔ ∀ item ∈ items, ∃ answer, ask item = .ok answer := by
  induction items with
  | nil => simp [pure, Except.pure]
  | cons item rest ih =>
      rw [List.forall_mem_cons, ← ih, List.mapM_cons]
      cases first : ask item with
      | error e => simp [bind, Except.bind]
      | ok answer =>
          cases others : rest.mapM ask with
          | error e => simp [bind, Except.bind]
          | ok answers => simp [bind, Except.bind, pure, Except.pure]

theorem mem_of_mapM {ask : α → Except ε β} : ∀ {items : List α} {answers : List β} {answer : β},
    items.mapM ask = .ok answers → (answer ∈ answers ↔ ∃ item ∈ items, ask item = .ok answer)
  | [], _, _, h => by
      cases h
      simp
  | item :: rest, _, answer, h => by
      rw [List.mapM_cons] at h
      cases first : ask item with
      | error e =>
          rw [first] at h
          cases h
      | ok given =>
          cases others : rest.mapM ask with
          | error e =>
              rw [first, others] at h
              cases h
          | ok more =>
              rw [first, others] at h
              cases h
              simp only [List.mem_cons, mem_of_mapM others, exists_eq_or_imp, first, Except.ok.injEq]
              rw [eq_comm]

theorem forM_returns_iff {ask : α → Except ε PUnit} :
    (∃ done, items.forM ask = .ok done) ↔ ∀ item ∈ items, ∃ done, ask item = .ok done := by
  induction items with
  | nil => simp [pure, Except.pure]
  | cons item rest ih =>
      rw [List.forall_mem_cons, ← ih, List.forM]
      cases first : ask item with
      | error e => simp [bind, Except.bind]
      | ok done => simp [bind, Except.bind]

theorem filterM_of_answers {ask : α → Except ε Bool} {p : α → Bool}
    (h : ∀ item ∈ items, ask item = .ok (p item)) : items.filterM ask = .ok (items.filter p) := by
  suffices ∀ kept, items.filterAuxM ask kept = .ok ((items.filter p).reverse ++ kept) by
    rw [List.filterM, this []]
    simp [bind, Except.bind, pure, Except.pure]
  induction items with
  | nil => exact fun kept => rfl
  | cons item rest ih =>
      intro kept
      rw [List.filterAuxM, h item (List.mem_cons_self ..)]
      have others := ih (fun other member => h other (List.mem_cons_of_mem _ member))
      cases chosen : p item with
      | true =>
          rw [List.filter_cons_of_pos chosen, List.reverse_cons, List.append_assoc]
          exact others (item :: kept)
      | false =>
          rw [List.filter_cons_of_neg (by simp [chosen])]
          exact others kept

end Asking

section Sorting

variable {α : Type}

theorem insertSorted_eq_orderedInsert (le : α → α → Bool) (a : α) (l : List α) :
    insertSorted le a l = l.orderedInsert (le · · = true) a := by
  induction l with
  | nil => rfl
  | cons b rest ih => rw [insertSorted, List.orderedInsert_cons, ih]

theorem sortBy_eq_insertionSort (le : α → α → Bool) (l : List α) :
    sortBy le l = l.insertionSort (le · · = true) := by
  induction l with
  | nil => rfl
  | cons a rest ih => rw [sortBy, List.insertionSort_cons, ih, insertSorted_eq_orderedInsert]

theorem sortBy_perm (le : α → α → Bool) (l : List α) : (sortBy le l).Perm l :=
  sortBy_eq_insertionSort le l ▸ l.perm_insertionSort _

theorem mem_sortBy {le : α → α → Bool} {a : α} {l : List α} : a ∈ sortBy le l ↔ a ∈ l :=
  (sortBy_perm le l).mem_iff

end Sorting

namespace Disk

variable {disk other : Disk}

theorem nodup_listing (disk : Disk) (location : Location) : (disk.listing location).Nodup := by
  refine List.Pairwise.filterMap _ ?_ (List.pairwise_map.1 disk.distinct)
  intro entry other apart name found name' found' same
  split at found
  · split at found'
    · rename_i below below'
      rw [Bool.and_eq_true, decide_eq_true_eq, List.isPrefixOf_iff_prefix] at below below'
      obtain ⟨⟨rest, split⟩, size⟩ := below
      obtain ⟨⟨rest', split'⟩, size'⟩ := below'
      have only {rest : Location} {name : FileName} {place : Location} (split : location ++ rest = place)
          (size : place.length = location.length + 1) (last : place.getLast? = some name) :
          place = location ++ [name] := by
        subst split
        match rest, size with
        | [only], _ => simpa using last
        | [], size => simp at size
        | _ :: _ :: _, size => simp at size
      rw [only split size found, only split' size' found', same] at apart
      exact apart rfl
    · cases found'
  · cases found

theorem nodup_namesIn (disk : Disk) (directory : Path) : (disk.namesIn directory).Nodup := by
  unfold namesIn
  split
  · exact .nil
  · exact disk.nodup_listing _

theorem mem_listing_of_find? {location : Location} {name : FileName} {node : Node}
    (found : disk.find? (location ++ [name]) = some node) : name ∈ disk.listing location := by
  obtain ⟨entry, member, same⟩ := List.mem_map.1 (disk.mem_keys_of_find? found (by simp))
  refine List.mem_filterMap.2 ⟨entry, member, ?_⟩
  rw [same]
  simp

theorem mem_children_of_find? {location : Location} {name : FileName} {node : Node}
    (found : disk.find? (location ++ [name]) = some node) : name ∈ disk.children location :=
  mem_sortBy.2 (mem_listing_of_find? found)

theorem listing_eq (same : other.nodes.map (·.1) = disk.nodes.map (·.1)) (location : Location) :
    other.listing location = disk.listing location := by
  have listed (disk : Disk) : disk.listing location =
      (disk.nodes.map (·.1)).filterMap fun place =>
        if location.isPrefixOf place && place.length = location.length + 1 then place.getLast?
        else none := by
    rw [List.filterMap_map]
    rfl
  rw [listed, listed, same]

theorem SameButTexts.namesIn_eq (same : disk.SameButTexts other) (directory : Path) :
    other.namesIn directory = disk.namesIn directory := by
  unfold namesIn
  rcases same.sameDirectories.locate_eq directory with located | ⟨blocked, blocked'⟩
  · rw [located]
    cases disk.locate directory with
    | error refusal => rfl
    | ok location => exact listing_eq same.locations location
  · rcases blocked with blocked | blocked <;> rcases blocked' with blocked' | blocked' <;>
      rw [blocked, blocked']

theorem SameButTexts.test_eq (same : disk.SameButTexts other) {asks : Node → Bool} {answer : Bool}
    (blind : ∀ bytes, asks (.file bytes) = answer) {path : Path} :
    other.test asks path = disk.test asks path := by
  by_cases long : disk.TooLong path
  · rw [test_of_tooLong _ long, test_of_tooLong _ (same.sameDirectories.tooLong_iff.2 long)]
  · rw [test_of_not_tooLong _ long,
      test_of_not_tooLong _ (mt same.sameDirectories.tooLong_iff.1 long)]
    rcases same.nodeAt?_cases path with kept | ⟨old, new, foundOld, foundNew⟩
    · rw [kept]
    · rw [foundOld, foundNew, Option.any_some, Option.any_some, blind, blind]

theorem SameButTexts.isFile_eq (same : disk.SameButTexts other) {path : Path} :
    other.isFile path = disk.isFile path :=
  same.test_eq fun _ => rfl

theorem SameButTexts.isDirectory_eq (same : disk.SameButTexts other) {path : Path} :
    other.isDirectory path = disk.isDirectory path :=
  same.test_eq fun _ => rfl

end Disk

end DiagnosticRepair
