import DiagnosticRepair.Patch.Mutation
import DiagnosticRepair.Proofs.Disk.Place
import DiagnosticRepair.Proofs.Text.Decoding

namespace DiagnosticRepair

def Node.mapText (f : Text → Text) : Node → Node
  | .directory => .directory
  | .file bytes =>
      match Utf8.decode bytes with
      | .ok text => .file (Utf8.encode (f text))
      | .error _ => .file bytes

namespace Node

def text? : Node → Option Text
  | .directory => none
  | .file bytes => (Utf8.decode bytes).toOption

theorem text?_eq_some_iff {node : Node} {text : Text} :
    node.text? = some text ↔ node = .file (Utf8.encode text) := by
  cases node with
  | directory => simp [text?]
  | file bytes =>
      cases decoded : Utf8.decode bytes with
      | error e =>
          simp only [text?, decoded, Except.toOption, reduceCtorEq, Node.file.injEq, false_iff]
          rintro rfl
          rw [Utf8.decode_encode] at decoded
          cases decoded
      | ok other =>
          simp only [text?, decoded, Except.toOption, Option.some.injEq, Node.file.injEq]
          rw [← Utf8.encode_of_decode decoded]
          exact Utf8.encode_inj.symm

theorem mapText_of_text?_none {f : Text → Text} {node : Node} (h : node.text? = none) :
    node.mapText f = node := by
  cases node with
  | directory => rfl
  | file bytes =>
      cases decoded : Utf8.decode bytes with
      | error e => simp [mapText, decoded]
      | ok text => simp [text?, decoded, Except.toOption] at h

theorem mapText_file_encode (f : Text → Text) (text : Text) :
    mapText f (.file (Utf8.encode text)) = .file (Utf8.encode (f text)) := by
  simp [mapText, Utf8.decode_encode]

theorem mapText_of_fixed {f : Text → Text} {node : Node} {text : Text}
    (h : node.text? = some text) (fixed : f text = text) : node.mapText f = node := by
  rw [text?_eq_some_iff.1 h, mapText_file_encode, fixed]

theorem mapText_mapText (f g : Text → Text) (node : Node) :
    (node.mapText f).mapText g = node.mapText (g ∘ f) := by
  cases readable : node.text? with
  | none =>
      rw [mapText_of_text?_none readable, mapText_of_text?_none readable,
        mapText_of_text?_none readable]
  | some text =>
      rw [text?_eq_some_iff.1 readable, mapText_file_encode, mapText_file_encode,
        mapText_file_encode]
      rfl

theorem mapText_id (node : Node) : node.mapText id = node := by
  cases readable : node.text? with
  | none => exact mapText_of_text?_none readable
  | some text => exact mapText_of_fixed readable rfl

end Node

namespace Disk

variable {disk other third : Disk} {path : Path} {location : Location}

theorem text?_eq_bind (disk : Disk) (path : Path) :
    disk.text? path = (disk.nodeAt? path).bind Node.text? := by
  unfold text?
  cases read : disk.read path with
  | ok bytes =>
      rw [read_eq_ok_iff.1 read]
      rfl
  | error e =>
      cases found : disk.nodeAt? path with
      | none => rfl
      | some node =>
          cases node with
          | directory => rfl
          | file bytes =>
              rw [read_eq_ok_iff.2 found] at read
              cases read

theorem text?_of_nodeAt? {text : Text} (h : disk.nodeAt? path = some (.file (Utf8.encode text))) :
    disk.text? path = some text := by
  rw [text?_eq_bind, h]
  exact Node.text?_eq_some_iff.2 rfl

theorem nodeAt?_of_text?_some {text : Text} (h : disk.text? path = some text) :
    disk.nodeAt? path = some (.file (Utf8.encode text)) := by
  rw [text?_eq_bind] at h
  obtain ⟨node, found, readable⟩ := Option.bind_eq_some_iff.1 h
  rw [found, Node.text?_eq_some_iff.1 readable]

structure SameDirectories (disk other : Disk) : Prop where
  here : other.here = disk.here
  directory : ∀ location,
    other.find? location = some .directory ↔ disk.find? location = some .directory

namespace SameDirectories

theorem refl (disk : Disk) : SameDirectories disk disk :=
  ⟨rfl, fun _ => Iff.rfl⟩

theorem symm (h : SameDirectories disk other) : SameDirectories other disk :=
  ⟨h.here.symm, fun location => (h.directory location).symm⟩

theorem trans (h : SameDirectories disk other) (h' : SameDirectories other third) :
    SameDirectories disk third :=
  ⟨h'.here.trans h.here, fun location => (h'.directory location).trans (h.directory location)⟩

theorem walk_eq (h : SameDirectories disk other) (steps : List Step) : ∀ here : Location,
    other.walk here steps = disk.walk here steps ∨
      Blocked (disk.walk here steps) ∧ Blocked (other.walk here steps) := by
  induction steps with
  | nil => exact fun _ => .inl rfl
  | cons step rest ih =>
      intro here
      by_cases inside : disk.find? here = some .directory
      · have inside' := (h.directory here).2 inside
        cases step with
        | up =>
            rw [walk_up inside, walk_up inside']
            exact ih here.dropLast
        | down name =>
            rw [walk_down inside, walk_down inside']
            split
            · exact .inl rfl
            · exact ih (here ++ [name])
      · have outside : other.find? here ≠ some .directory := mt (h.directory here).1 inside
        exact .inr ⟨walk_blocked inside, walk_blocked outside⟩

theorem locate_eq (h : SameDirectories disk other) (path : Path) :
    other.locate path = disk.locate path ∨
      Blocked (disk.locate path) ∧ Blocked (other.locate path) := by
  unfold locate
  split
  · exact .inl rfl
  · rw [h.here]
    exact h.walk_eq path.steps _

theorem tooLong_iff (h : SameDirectories disk other) :
    other.TooLong path ↔ disk.TooLong path := by
  unfold TooLong
  rcases h.locate_eq path with same | ⟨blocked, blocked'⟩
  · rw [same]
  · rcases blocked with blocked | blocked <;> rcases blocked' with blocked' | blocked' <;>
      simp [blocked, blocked']

theorem place?_eq (h : SameDirectories disk other) (path : Path) :
    other.place? path = disk.place? path := by
  unfold place?
  rcases h.locate_eq path with same | ⟨blocked, blocked'⟩
  · rw [same]
  · rcases blocked with blocked | blocked <;> rcases blocked' with blocked' | blocked' <;>
      simp [blocked, blocked', Except.toOption]

end SameDirectories

/-- One disk is the other but for the text of files that can be decoded. -/
structure SameButTexts (disk other : Disk) : Prop where
  here : other.here = disk.here
  locations : other.nodes.map (·.1) = disk.nodes.map (·.1)
  node : ∀ location, other.find? location = disk.find? location ∨
    ∃ old new, disk.find? location = some (.file (Utf8.encode old)) ∧
      other.find? location = some (.file (Utf8.encode new))

namespace SameButTexts

theorem refl (disk : Disk) : SameButTexts disk disk :=
  ⟨rfl, rfl, fun _ => .inl rfl⟩

theorem trans (h : SameButTexts disk other) (h' : SameButTexts other third) :
    SameButTexts disk third := by
  refine ⟨h'.here.trans h.here, h'.locations.trans h.locations, fun location => ?_⟩
  rcases h'.node location with same | ⟨mid, new, foundMid, foundNew⟩
  · rw [same]
    exact h.node location
  · rcases h.node location with same | ⟨old, _, foundOld, _⟩
    · exact .inr ⟨mid, new, same ▸ foundMid, foundNew⟩
    · exact .inr ⟨old, new, foundOld, foundNew⟩

theorem sameDirectories (h : SameButTexts disk other) : SameDirectories disk other := by
  refine ⟨h.here, fun location => ?_⟩
  rcases h.node location with same | ⟨old, new, foundOld, foundNew⟩
  · rw [same]
  · simp [foundOld, foundNew]

theorem place?_eq (h : SameButTexts disk other) (path : Path) :
    other.place? path = disk.place? path :=
  h.sameDirectories.place?_eq path

theorem nodeAt?_cases (h : SameButTexts disk other) (path : Path) :
    other.nodeAt? path = disk.nodeAt? path ∨
      ∃ old new, disk.nodeAt? path = some (.file (Utf8.encode old)) ∧
        other.nodeAt? path = some (.file (Utf8.encode new)) := by
  unfold nodeAt?
  rw [h.place?_eq]
  cases disk.place? path with
  | none => exact .inl rfl
  | some location => exact h.node location

theorem nodeAt?_eq_none_iff (h : SameButTexts disk other) :
    other.nodeAt? path = none ↔ disk.nodeAt? path = none := by
  rcases h.nodeAt?_cases path with same | ⟨old, new, foundOld, foundNew⟩
  · rw [same]
  · simp [foundOld, foundNew]

theorem nodeAt?_of_text?_none (h : SameButTexts disk other) (unread : disk.text? path = none) :
    other.nodeAt? path = disk.nodeAt? path := by
  rcases h.nodeAt?_cases path with same | ⟨old, new, foundOld, _⟩
  · exact same
  · rw [text?_eq_bind, foundOld, Option.bind_some, Node.text?_eq_some_iff.2 rfl] at unread
    cases unread

theorem text?_eq_none_iff (h : SameButTexts disk other) :
    other.text? path = none ↔ disk.text? path = none := by
  rw [text?_eq_bind, text?_eq_bind]
  rcases h.nodeAt?_cases path with same | ⟨old, new, foundOld, foundNew⟩
  · rw [same]
  · rw [foundOld, foundNew, Option.bind_some, Option.bind_some, Node.text?_eq_some_iff.2 rfl,
      Node.text?_eq_some_iff.2 rfl]
    simp

end SameButTexts

/-- The disk after the file at a path, if there is one, has had its text changed. -/
structure Rewritten (disk : Disk) (path : Path) (f : Text → Text) (other : Disk) : Prop where
  here : other.here = disk.here
  locations : other.nodes.map (·.1) = disk.nodes.map (·.1)
  node : ∀ location, other.find? location =
    if disk.place? path = some location then (disk.find? location).map (Node.mapText f)
    else disk.find? location

namespace Rewritten

variable {f : Text → Text}

theorem sameButTexts (h : Rewritten disk path f other) : SameButTexts disk other := by
  refine ⟨h.here, h.locations, fun location => ?_⟩
  rw [h.node location]
  split
  · cases found : disk.find? location with
    | none => exact .inl rfl
    | some node =>
        cases readable : node.text? with
        | none =>
            left
            rw [Option.map_some, Node.mapText_of_text?_none readable]
        | some text =>
            right
            rw [Node.text?_eq_some_iff.1 readable]
            exact ⟨text, f text, rfl, by rw [Option.map_some, Node.mapText_file_encode]⟩
  · exact .inl rfl

theorem of_fixed (h : ∀ text, disk.text? path = some text → f text = text) :
    Rewritten disk path f disk := by
  refine ⟨rfl, rfl, fun location => ?_⟩
  split
  · rename_i place
    cases found : disk.find? location with
    | none => rfl
    | some node =>
        rw [Option.map_some]
        cases readable : node.text? with
        | none => rw [Node.mapText_of_text?_none readable]
        | some text =>
            have read : disk.text? path = some text := by
              rw [text?_eq_bind, nodeAt?, place, Option.bind_some, found]
              exact readable
            rw [Node.mapText_of_fixed readable (h text read)]
  · rfl

end Rewritten

theorem here_putAt (disk : Disk) (location : Location) (node : Node) :
    (disk.putAt location node).here = disk.here := by
  unfold putAt
  cases location.getLast? with
  | none => rfl
  | some name =>
      simp only [put]
      split <;> rfl

theorem find?_putAt {node : Node} {above : Location} {name : FileName}
    (inside : disk.find? above = some .directory)
    (free : disk.find? (above ++ [name]) ≠ some .directory) (fits : name.fits)
    (other : Location) :
    (disk.putAt (above ++ [name]) node).find? other =
      if other = above ++ [name] then some node else disk.find? other := by
  unfold putAt
  rw [List.getLast?_concat, List.dropLast_concat]
  exact disk.find?_put above name node other inside free fits

theorem putAt_cases (free : disk.find? location ≠ some .directory) (node : Node) :
    disk.putAt location node = disk ∨ ∀ other, (disk.putAt location node).find? other =
      if other = location then some node else disk.find? other := by
  rcases List.eq_nil_or_concat location with rfl | ⟨above, name, rfl⟩
  · exact .inl rfl
  · rw [List.concat_eq_append] at free ⊢
    by_cases put : disk.find? above = some .directory ∧ name.fits
    · exact .inr (find?_putAt put.1 free put.2)
    · left
      unfold putAt Disk.put
      rw [List.getLast?_concat, List.dropLast_concat]
      exact dif_neg fun all => put ⟨all.1, all.2.2⟩

theorem sameDirectories_putAt_file (free : disk.find? location ≠ some .directory) (bytes : Bytes) :
    SameDirectories disk (disk.putAt location (.file bytes)) := by
  refine ⟨here_putAt .., fun place => ?_⟩
  rcases putAt_cases free (.file bytes) with nothing | put
  · rw [nothing]
  · rw [put place]
    split
    · rename_i same
      rw [same]
      simp [free]
    · rfl

theorem keys_setNode (node : Node) : ∀ {nodes : List (Location × Node)},
    location ∈ nodes.map (·.1) → (setNode location node nodes).map (·.1) = nodes.map (·.1)
  | [], old => by cases old
  | entry :: rest, old => by
      unfold setNode
      split
      · rename_i same
        rw [List.map_cons, List.map_cons, same]
      · rename_i different
        rw [List.map_cons, List.mem_cons] at old
        rw [List.map_cons, List.map_cons, keys_setNode node (old.resolve_left (Ne.symm different))]

theorem locations_putAt {node old : Node} (found : disk.find? location = some old) :
    (disk.putAt location node).nodes.map (·.1) = disk.nodes.map (·.1) := by
  unfold putAt
  rcases List.eq_nil_or_concat location with rfl | ⟨above, name, rfl⟩
  · rfl
  · rw [List.concat_eq_append] at found ⊢
    rw [List.getLast?_concat, List.dropLast_concat]
    simp only [put]
    split
    · exact keys_setNode node (disk.mem_keys_of_find? found (by simp))
    · rfl

theorem write_of_file {old : Bytes} (found : disk.nodeAt? path = some (.file old)) (new : Bytes) :
    ∃ written, disk.write path new = .ok written ∧ written.here = disk.here ∧
      written.nodes.map (·.1) = disk.nodes.map (·.1) ∧ ∀ location, written.find? location =
        if disk.place? path = some location then some (.file new) else disk.find? location := by
  obtain ⟨place, leads, there⟩ := nodeAt?_eq_some_iff.1 found
  obtain ⟨noNul, located⟩ := place?_eq_some_iff.1 leads
  have free : disk.find? place ≠ some .directory := by simp [there]
  refine ⟨disk.putAt place (.file new), ?_, here_putAt .., locations_putAt there,
    fun location => ?_⟩
  · unfold write
    rw [noNul, located]
    simp [free]
  · rcases List.eq_nil_or_concat place with rfl | ⟨above, name, rfl⟩
    · exact absurd rfl free
    · rw [List.concat_eq_append] at *
      have inside := find?_dropLast there
      rw [List.dropLast_concat] at inside
      rw [find?_putAt inside free (disk.fits_of_find? there name (by simp)), leads]
      simp only [Option.some.injEq, eq_comm]

end Disk

end DiagnosticRepair
