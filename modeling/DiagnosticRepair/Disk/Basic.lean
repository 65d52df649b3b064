import DiagnosticRepair.Path.Lexical
import DiagnosticRepair.Text.Utf8

namespace DiagnosticRepair

namespace FileName

def limit : Nat := 255

def fits (name : FileName) : Bool :=
  (Utf8.encode name.text).length ≤ limit && !name.text.contains '\x00'

end FileName

inductive Node where
  | directory
  | file (content : Bytes)
  deriving DecidableEq

def standing (nodes : List (Location × Node)) (location : Location) : Option Node :=
  if location = [] then some .directory else nodes.lookup location

/-- Nodes by location, the root apart, and the location at which relative paths start. -/
structure Disk where
  here : Location
  nodes : List (Location × Node)
  distinct : (nodes.map (·.1)).Nodup
  rooted : ∀ dir name, dir ++ [name] ∈ nodes.map (·.1) → standing nodes dir = some .directory
  fitting : ∀ location ∈ nodes.map (·.1), ∀ name ∈ location, name.fits

namespace Disk

variable (disk : Disk)

def find? (location : Location) : Option Node :=
  standing disk.nodes location

def empty (here : Location) : Disk :=
  ⟨here, [], List.nodup_nil, by simp, by simp⟩

def setNode (location : Location) (node : Node) : List (Location × Node) → List (Location × Node)
  | [] => [(location, node)]
  | entry :: rest =>
      if entry.1 = location then (location, node) :: rest
      else entry :: setNode location node rest

theorem mem_keys_setNode (location other : Location) (node : Node) :
    ∀ nodes : List (Location × Node),
      other ∈ (setNode location node nodes).map (·.1) ↔
        other = location ∨ other ∈ nodes.map (·.1)
  | [] => by simp [setNode]
  | entry :: rest => by
      have ih := mem_keys_setNode location other node rest
      unfold setNode
      split
      · rename_i h
        simp [h]
      · rw [List.map_cons, List.mem_cons, ih, List.map_cons, List.mem_cons]
        exact or_left_comm

theorem nodup_keys_setNode (location : Location) (node : Node) :
    ∀ nodes : List (Location × Node), (nodes.map (·.1)).Nodup →
      ((setNode location node nodes).map (·.1)).Nodup
  | [], _ => by simp [setNode]
  | entry :: rest, h => by
      rw [List.map_cons, List.nodup_cons] at h
      unfold setNode
      split
      · rename_i same
        rw [List.map_cons, List.nodup_cons]
        exact ⟨same ▸ h.1, h.2⟩
      · rename_i different
        rw [List.map_cons, List.nodup_cons, mem_keys_setNode]
        exact ⟨fun found => found.elim different h.1, nodup_keys_setNode location node rest h.2⟩

theorem lookup_setNode (location other : Location) (node : Node) :
    ∀ nodes : List (Location × Node),
      (setNode location node nodes).lookup other =
        if other = location then some node else nodes.lookup other
  | [] => by
      by_cases h : other = location
      · simp [setNode, h]
      · simp [setNode, List.lookup_cons, h, beq_false_of_ne h]
  | entry :: rest => by
      have ih := lookup_setNode location other node rest
      obtain ⟨key, value⟩ := entry
      unfold setNode
      by_cases same : key = location
      · subst same
        by_cases h : other = key
        · simp [h]
        · simp [List.lookup_cons, h, beq_false_of_ne h]
      · by_cases h : other = key
        · subst h
          simp [same]
        · simp [List.lookup_cons, same, ih, beq_false_of_ne h]

theorem standing_setNode (location other : Location) (node : Node)
    (nodes : List (Location × Node)) (h : location ≠ []) :
    standing (setNode location node nodes) other =
      if other = location then some node else standing nodes other := by
  unfold standing
  by_cases root : other = []
  · subst root
    simp [Ne.symm h]
  · simp [root, lookup_setNode]

theorem lookup_filter_of_keep (keep : Location → Bool) (location : Location)
    (h : keep location = true) :
    ∀ nodes : List (Location × Node),
      (nodes.filter fun entry => keep entry.1).lookup location = nodes.lookup location
  | [] => rfl
  | (key, value) :: rest => by
      have ih := lookup_filter_of_keep keep location h rest
      by_cases same : location = key
      · subst same
        simp [List.filter, h]
      · by_cases kept : keep key = true
        · simp [List.filter, kept, List.lookup_cons, beq_false_of_ne same, ih]
        · simp [List.filter, kept, List.lookup_cons, beq_false_of_ne same, ih]

theorem mem_keys_of_find? {location : Location} {node : Node} (h : disk.find? location = some node)
    (below : location ≠ []) : location ∈ disk.nodes.map (·.1) := by
  unfold find? standing at h
  rw [if_neg below] at h
  obtain ⟨before, after, split, _⟩ := List.lookup_eq_some_iff.1 h
  simp [split]

theorem fits_of_find? {location : Location} {node : Node} (h : disk.find? location = some node) :
    ∀ name ∈ location, name.fits := by
  by_cases root : location = []
  · subst root
    simp
  · exact disk.fitting location (disk.mem_keys_of_find? h root)

/-- Puts a node under a name in a directory, in place of a file of that name. Nothing happens
where there is no such directory, where another directory has the name, or where the system does
not take it. -/
def put (dir : Location) (name : FileName) (node : Node) : Disk :=
  if h : disk.find? dir = some .directory ∧ disk.find? (dir ++ [name]) ≠ some .directory ∧
      name.fits then
    { here := disk.here
      nodes := setNode (dir ++ [name]) node disk.nodes
      distinct := nodup_keys_setNode _ node disk.nodes disk.distinct
      rooted := by
        intro other entry found
        rw [standing_setNode _ _ _ _ (by simp)]
        rw [mem_keys_setNode] at found
        rcases found with same | old
        · have := List.append_inj' same rfl
          rw [this.1, if_neg (by simp)]
          exact h.1
        · have standing := disk.rooted other entry old
          rw [if_neg]
          · exact standing
          · intro same
            exact h.2.1 (same ▸ standing)
      fitting := by
        intro location found entry member
        rw [mem_keys_setNode] at found
        rcases found with rfl | old
        · rcases List.mem_append.1 member with above | last
          · exact disk.fits_of_find? h.1 entry above
          · rw [List.mem_singleton.1 last]
            exact h.2.2
        · exact disk.fitting location old entry member }
  else disk

def remove (location : Location) : Disk where
  here := disk.here
  nodes := disk.nodes.filter fun entry => !location.isPrefixOf entry.1
  distinct := disk.distinct.sublist (List.filter_sublist.map _)
  rooted := by
    intro dir name found
    obtain ⟨entry, member, same⟩ := List.mem_map.1 found
    rw [List.mem_filter] at member
    have standing := disk.rooted dir name (same ▸ List.mem_map.2 ⟨entry, member.1, rfl⟩)
    have outside : (!location.isPrefixOf dir) = true := by
      have := member.2
      rw [same] at this
      simp only [Bool.not_eq_true', ← Bool.not_eq_true, List.isPrefixOf_iff_prefix] at this ⊢
      exact fun below => this (below.trans (List.prefix_append ..))
    rw [← standing]
    unfold DiagnosticRepair.standing
    rw [lookup_filter_of_keep (fun key => !location.isPrefixOf key) dir outside]
  fitting := by
    intro key found
    obtain ⟨entry, member, same⟩ := List.mem_map.1 found
    exact disk.fitting key (same ▸ List.mem_map.2 ⟨entry, (List.mem_filter.1 member).1, rfl⟩)

theorem find?_put (dir : Location) (name : FileName) (node : Node) (other : Location)
    (isDir : disk.find? dir = some .directory)
    (free : disk.find? (dir ++ [name]) ≠ some .directory) (fits : name.fits) :
    (disk.put dir name node).find? other =
      if other = dir ++ [name] then some node else disk.find? other := by
  unfold put
  rw [dif_pos ⟨isDir, free, fits⟩]
  exact standing_setNode _ _ _ _ (by simp)

/-- The names in a directory, in the order of the nodes, which can be any. -/
def listing (location : Location) : List FileName :=
  disk.nodes.filterMap fun entry =>
    if location.isPrefixOf entry.1 && entry.1.length = location.length + 1 then entry.1.getLast?
    else none

def children (location : Location) : List FileName :=
  sortBy FileName.le (disk.listing location)

end Disk

end DiagnosticRepair
