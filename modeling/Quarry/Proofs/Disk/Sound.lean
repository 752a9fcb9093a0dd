import Quarry.Disk.Resolve
import Quarry.Proofs.Path.Spelling
import Mathlib.Data.List.Induction

/-! What every file system keeps: only directories lie on the way to what there is. Locations that
are reached without links stay so from name to name. -/
namespace Quarry

/-- A name that something in a directory can have. -/
structure IsName (name : Text) : Prop where
  segment : Path.IsSegment name
  notUp : name ≠ Path.up
  noNul : Char.ofNat 0 ∉ name

instance (name : Text) : Decidable (IsName name) :=
  decidable_of_iff (Path.IsSegment name ∧ name ≠ Path.up ∧ Char.ofNat 0 ∉ name)
    ⟨fun h => ⟨h.1, h.2.1, h.2.2⟩, fun h => ⟨h.segment, h.notUp, h.noNul⟩⟩

namespace Disk

/-- What every system keeps: whatever there is has a name and is in a directory, and relative
paths start in a directory. -/
structure Sound (disk : Disk) : Prop where
  names : ∀ entry ∈ disk.nodes, ∀ name ∈ entry.1, IsName name
  parents : ∀ entry ∈ disk.nodes, disk.node? entry.1.dropLast = some .directory
  start : disk.node? disk.workingDirectory = some .directory

/-- A location that is reached by names alone, without following a link. -/
structure Plain (disk : Disk) (location : Location) : Prop where
  names : ∀ name ∈ location, IsName name
  linkFree : ∀ part, part <+: location → disk.link? part = none

theorem node?_root (disk : Disk) : disk.node? [] = some .directory := rfl

theorem link?_eq_some (disk : Disk) (location : Location) (target : Text) :
    disk.link? location = some target ↔ disk.node? location = some (.link target) := by
  unfold link?
  split
  · rename_i found hnode
    simp [hnode]
  · rename_i hnode
    constructor
    · intro h
      simp at h
    · intro h
      exact absurd h (hnode target)

theorem link?_of_directory (disk : Disk) (location : Location)
    (h : disk.node? location = some .directory) : disk.link? location = none := by
  simp [link?, h]

theorem mem_of_node? (disk : Disk) (location : Location) (node : Node)
    (h : disk.node? location = some node) (hn : location ≠ []) :
    (location, node) ∈ disk.nodes := by
  have hne : location.isEmpty = false := by simpa using hn
  simp only [node?, hne] at h
  obtain ⟨before, after, hnodes, -⟩ := List.lookup_eq_some_iff.1 h
  simp [hnodes]

theorem sound_parent (disk : Disk) (hd : disk.Sound) (location : Location) (name : Text)
    (h : disk.node? (location ++ [name]) ≠ none) : disk.node? location = some .directory := by
  obtain ⟨node, hnode⟩ := Option.ne_none_iff_exists'.1 h
  have hm := mem_of_node? disk _ node hnode (by simp)
  simpa using hd.parents _ hm

/-- Only directories lie on the way to what there is. -/
theorem sound_above (disk : Disk) (hd : disk.Sound) (above below : Location)
    (ha : above <+: below) (hne : above ≠ below) (h : disk.node? below ≠ none) :
    disk.node? above = some .directory := by
  obtain ⟨names, rfl⟩ := ha
  induction names using List.reverseRecOn with
  | nil => exact absurd (by simp) hne
  | append_singleton names name ih =>
    rw [← List.append_assoc] at h
    have hdir := sound_parent disk hd _ name h
    by_cases hn : names = []
    · simpa [hn] using hdir
    · exact ih (by simpa using hn) (by simp [hdir])

theorem sound_plain (disk : Disk) (hd : disk.Sound) (location : Location)
    (h : disk.node? location = some .directory) : disk.Plain location := by
  constructor
  · intro name hname
    have hm := mem_of_node? disk location .directory h (List.ne_nil_of_mem hname)
    exact hd.names _ hm name hname
  · intro part hpart
    apply link?_of_directory
    by_cases hp : part = location
    · rw [hp, h]
    · exact sound_above disk hd part location hpart hp (by simp [h])

theorem plain_root (disk : Disk) : disk.Plain [] :=
  ⟨by simp, fun part hpart => by rw [List.prefix_nil.1 hpart]; rfl⟩

theorem plain_above (disk : Disk) (part location : Location) (hp : part <+: location)
    (h : disk.Plain location) : disk.Plain part :=
  ⟨fun name hname => h.names name (hp.subset hname), fun q hq => h.linkFree q (hq.trans hp)⟩

theorem plain_snoc (disk : Disk) (location : Location) (name : Text) (h : disk.Plain location)
    (hname : IsName name) (hl : disk.link? (location ++ [name]) = none) :
    disk.Plain (location ++ [name]) := by
  constructor
  · intro n hn
    rcases List.mem_append.1 hn with hn | hn
    · exact h.names n hn
    · rwa [List.mem_singleton.1 hn]
  · intro part hpart
    rcases List.prefix_concat_iff.1 hpart with rfl | hpart
    · exact hl
    · exact h.linkFree part hpart

theorem linkOrigin_plain (disk : Disk) (target : Text) (here : Location) (h : disk.Plain here) :
    disk.Plain (linkOrigin target here) := by
  unfold linkOrigin
  split
  · exact h
  · exact plain_root disk

theorem origin_plain (disk : Disk) (hd : disk.Sound) (path : Path) :
    disk.Plain (disk.origin path) := by
  unfold origin
  split
  · exact plain_root disk
  · exact sound_plain disk hd _ hd.start

end Disk
end Quarry
