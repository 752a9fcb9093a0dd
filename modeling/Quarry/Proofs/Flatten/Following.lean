import Mathlib
import Quarry.Proofs.Flatten.Listing
import Quarry.Proofs.Flatten.Written
import Quarry.Proofs.Json.Keys

/-! Paths of lines, followed back. In a value whose keys are plain and stand once in each record, no two
lines have one path, and the path of a line leads to what its text is taken from. -/
namespace Quarry.Flatten

open Json (Value Fields)

/-- The value that a step leads to. -/
def stepInto? : Value → Step → Option Value
  | .record fields, .field key => fields.lookup key
  | .list items, .item index => items[index]?
  | _, _ => none

/-- The value that steps lead to. -/
def walk? : Value → List Step → Option Value
  | value, [] => some value
  | value, step :: rest => (stepInto? value step).bind fun child => walk? child rest

/-- The value that a path leads to, where the value to start from stands at a path of its own. -/
def follow? (start : Text) (value : Value) (path : Text) : Option Value :=
  if start.isPrefixOf path then walk? value (stepsOf (path.drop start.length)) else none

/-- What the text of a line at a path is taken from: a leaf, or a list without lists and records. -/
inductive Carries (policy : Policy) (path : Text) : Value → Text → Prop where
  | leaf (t : Text) (hkept : policy.keepsText path t = true) :
    Carries policy path (.text t) t
  | list (items : List Value) (hleaves : items.any Value.isContainer = false)
    (hkept : keptTexts policy path items ≠ []) :
    Carries policy path (.list items) (Text.joined [',', ' '] (keptTexts policy path items))

/-- A line with its path and its text apart. -/
structure Entry where
  path : Text
  text : Text

def Entry.line (entry : Entry) : Text := Flatten.line entry.path entry.text

/-- The lines of a value, with their paths and their texts apart. -/
def entries (policy : Policy) (path : Text) (value : Value) : List Entry :=
  (kept policy path value).map fun spot =>
    ⟨pathTo path spot.steps, Text.joined [',', ' '] spot.leaves⟩

/-- No key of a record in the value is empty or holds a character that a step starts with. -/
def PlainKeys (value : Value) : Prop :=
  value.EachRecord fun fields => ∀ field ∈ fields, PlainKey field.1

/-- A leaf, or a list without lists and records. -/
def IsSource (value : Value) : Prop := value.isContainer = false ∨ isLeafList value = true

/-- The leaves that share a line. -/
def leavesOf : Value → List Value
  | .list items => items
  | leaf => [leaf]

/-- The steps into a list or record, with the values that they lead to. -/
def branches : Value → List (Step × Value)
  | .list items => items.zipIdx.map fun item => (.item item.2, item.1)
  | .record fields => fields.map fun field => (.field field.1, field.2)
  | _ => []

section Branches

variable (value : Value)

theorem mem_children_of_branch (branch : Step × Value) (h : branch ∈ branches value) :
    branch.2 ∈ value.children := by
  cases value with
  | list items =>
    obtain ⟨item, hitem, rfl⟩ := List.mem_map.1 h
    exact List.mem_of_getElem? (List.mem_zipIdx_iff_getElem?.1 hitem)
  | record fields =>
    obtain ⟨field, hfield, rfl⟩ := List.mem_map.1 h
    exact List.mem_map_of_mem hfield
  | _ => cases h

theorem eachRecord_branch (holds : Fields → Prop) (h : value.EachRecord holds)
    (branch : Step × Value) (hbranch : branch ∈ branches value) : branch.2.EachRecord holds :=
  ((Value.eachRecord_iff holds value).1 h).2 _ (mem_children_of_branch value branch hbranch)

/-- No two steps into a value are the same. -/
theorem pairwise_branches (h : value.DistinctKeys) :
    (branches value).Pairwise fun first second => first.1 ≠ second.1 := by
  cases value with
  | list items =>
    rw [branches, List.pairwise_map]
    exact (Value.pairwise_zipIdx items 0).imp fun hlt heq => Nat.ne_of_lt hlt (Step.item.inj heq)
  | record fields =>
    rw [branches, List.pairwise_map]
    have hkeys := ((Value.distinctKeys_record fields).1 h).1
    rw [List.Nodup, List.pairwise_map] at hkeys
    exact hkeys.imp fun hne heq => hne (Step.field.inj heq)
  | _ => exact .nil

theorem stepInto?_branch (h : value.DistinctKeys) (branch : Step × Value)
    (hbranch : branch ∈ branches value) : stepInto? value branch.1 = some branch.2 := by
  cases value with
  | list items =>
    obtain ⟨item, hitem, rfl⟩ := List.mem_map.1 hbranch
    exact List.mem_zipIdx_iff_getElem?.1 hitem
  | record fields =>
    obtain ⟨field, hfield, rfl⟩ := List.mem_map.1 hbranch
    obtain ⟨before, after, rfl⟩ := List.append_of_mem hfield
    have hkeys := ((Value.distinctKeys_record _).1 h).1
    rw [List.map_append, List.map_cons, List.nodup_append] at hkeys
    -- The key is not among those in front of it, so it is found here.
    refine List.lookup_eq_some_iff.2 ⟨before, after, rfl, fun other hother => ?_⟩
    have hne := hkeys.2.2 other.1 (List.mem_map_of_mem hother) field.1 List.mem_cons_self
    simpa using hne.symm
  | _ => cases hbranch

theorem isPlain_branch (h : PlainKeys value) (branch : Step × Value)
    (hbranch : branch ∈ branches value) : branch.1.IsPlain := by
  cases value with
  | list items =>
    obtain ⟨item, -, rfl⟩ := List.mem_map.1 hbranch
    trivial
  | record fields =>
    obtain ⟨field, hfield, rfl⟩ := List.mem_map.1 hbranch
    exact ((Value.eachRecord_record _ fields).1 h).1 field hfield
  | _ => cases hbranch

end Branches

section Spots

theorem spots_source (value : Value) (h : IsSource value) : spots value = [⟨[], leavesOf value⟩] := by
  rcases h with h | h
  · rw [spots_leaf value h]
    cases value with
    | list items => cases h
    | _ => rfl
  · cases value with
    | list items =>
      have hleaves : ¬items.any Value.isContainer = true := by simpa [isLeafList] using h
      rw [spots, if_neg hleaves]
      rfl
    | _ => cases h

theorem spots_branches (value : Value) (h : ¬IsSource value) :
    spots value = (branches value).flatMap fun branch =>
      (spots branch.2).map (Spot.under branch.1) := by
  cases value with
  | list items =>
    have hany : items.any Value.isContainer = true := by
      simpa [IsSource, isLeafList, Value.isContainer] using h
    rw [spots, if_pos hany, itemSpots_eq_flatMap, branches, List.flatMap_map]
  | record fields => rw [spots, fieldSpots_eq_flatMap, branches, List.flatMap_map]
  | _ => exact absurd (Or.inl rfl) h

/-- What holds where lines are taken from, and of other values if it holds behind each step, holds of
every value. -/
@[elab_as_elim]
theorem inductBranches {motive : Value → Prop} (source : ∀ value, IsSource value → motive value)
    (branch : ∀ value, ¬IsSource value → (∀ branch ∈ branches value, motive branch.2) → motive value)
    (value : Value) : motive value := by
  induction value using Value.inductChildren with
  | leaf value h => exact source value (Or.inl h)
  | container value _ ih =>
    by_cases h : IsSource value
    · exact source value h
    · exact branch value h fun child hchild => ih _ (mem_children_of_branch value child hchild)

/-- The steps to a spot lead to where its leaves are taken from, and each of them is plain. -/
theorem walk?_of_mem_spots (value : Value) (hdistinct : value.DistinctKeys) (hplain : PlainKeys value)
    (spot : Spot Value) (h : spot ∈ spots value) : (∀ step ∈ spot.steps, step.IsPlain) ∧
      ∃ target, walk? value spot.steps = some target ∧ IsSource target ∧
        spot.leaves = leavesOf target := by
  induction value using inductBranches generalizing spot with
  | source value hvalue =>
    rw [spots_source value hvalue, List.mem_singleton] at h
    subst h
    exact ⟨by simp, value, rfl, hvalue, rfl⟩
  | branch value hvalue ih =>
    rw [spots_branches value hvalue] at h
    obtain ⟨branch, hbranch, hspot⟩ := List.mem_flatMap.1 h
    obtain ⟨inner, hinner, rfl⟩ := List.mem_map.1 hspot
    obtain ⟨hsteps, target, hwalk, htarget⟩ := ih branch hbranch
      (eachRecord_branch value _ hdistinct branch hbranch)
      (eachRecord_branch value _ hplain branch hbranch) inner hinner
    have hfirst := isPlain_branch value hplain branch hbranch
    refine ⟨List.forall_mem_cons.2 ⟨hfirst, hsteps⟩, target, ?_, htarget⟩
    rw [Spot.under, walk?, stepInto?_branch value hdistinct branch hbranch]
    exact hwalk

/-- No two spots are reached by the same steps. -/
theorem pairwise_spots (value : Value) (h : value.DistinctKeys) :
    (spots value).Pairwise fun first second => first.steps ≠ second.steps := by
  induction value using inductBranches with
  | source value hvalue =>
    rw [spots_source value hvalue]
    exact List.pairwise_singleton ..
  | branch value hvalue ih =>
    -- Behind one step two spots differ further down, and behind two steps they differ here.
    rw [spots_branches value hvalue, List.pairwise_flatMap]
    constructor
    · intro branch hbranch
      rw [List.pairwise_map]
      refine (ih branch hbranch (eachRecord_branch value _ h branch hbranch)).imp ?_
      exact fun hne heq => hne (List.cons.inj heq).2
    · refine (pairwise_branches value h).imp fun hne first hfirst second hsecond heq => ?_
      obtain ⟨_, -, rfl⟩ := List.mem_map.1 hfirst
      obtain ⟨_, -, rfl⟩ := List.mem_map.1 hsecond
      exact hne (List.cons.inj heq).1

end Spots

theorem carries_of_source (policy : Policy) (path : Text) (target : Value) (h : IsSource target)
    (hkept : keptTexts policy path (leavesOf target) ≠ []) :
    Carries policy path target (Text.joined [',', ' '] (keptTexts policy path (leavesOf target))) := by
  rcases h with h | h
  · cases target with
    | text t =>
      have hkeeps : policy.keepsText path t = true := by
        by_contra hnot
        simp [leavesOf, keptTexts, hnot] at hkept
      have htexts : keptTexts policy path (leavesOf (.text t)) = [t] := by
        simp [leavesOf, keptTexts, hkeeps]
      have halone : Text.joined [',', ' '] [t] = t := by simp [Text.joined]
      rw [htexts, halone]
      exact .leaf t hkeeps
    | list items | record fields => cases h
    | _ => exact absurd rfl hkept
  · cases target with
    | list items => exact .list items (by simpa [isLeafList] using h) hkept
    | _ => cases h

/-- The path that steps lead to is followed step by step. -/
theorem follow?_pathTo (path : Text) (value : Value) (steps : List Step)
    (h : ∀ step ∈ steps, step.IsPlain) : follow? path value (pathTo path steps) = walk? value steps := by
  obtain ⟨written, hwritten, hread⟩ := exists_written path steps h
  rw [follow?, hwritten, List.drop_left, hread, if_pos]
  rw [List.isPrefixOf_iff_prefix]
  exact List.prefix_append path written

section Kept

variable (policy : Policy) (path : Text) (value : Value)

theorem pairwise_kept (h : value.DistinctKeys) :
    (kept policy path value).Pairwise fun first second => first.steps ≠ second.steps := by
  rw [kept, List.pairwise_filterMap]
  refine (pairwise_spots value h).imp fun hne first hfirst second hsecond => ?_
  rw [(kept?_eq_some policy path _ first hfirst).1, (kept?_eq_some policy path _ second hsecond).1]
  exact hne

/-- What is kept at a spot is carried from where the steps to the spot lead. -/
theorem walk?_of_mem_kept (hdistinct : value.DistinctKeys) (hplain : PlainKeys value)
    (found : Spot Text) (h : found ∈ kept policy path value) :
    (∀ step ∈ found.steps, step.IsPlain) ∧ ∃ target, walk? value found.steps = some target ∧
      Carries policy (pathTo path found.steps) target (Text.joined [',', ' '] found.leaves) := by
  obtain ⟨spot, hspot, hkept⟩ := List.mem_filterMap.1 h
  obtain ⟨hsteps, target, hwalk, hsource, hleaves⟩ :=
    walk?_of_mem_spots value hdistinct hplain spot hspot
  obtain ⟨hsame, htexts, hsome⟩ := kept?_eq_some policy path spot found hkept
  rw [hleaves, ← hsame] at htexts
  rw [htexts] at hsome ⊢
  rw [← hsame] at hsteps hwalk
  exact ⟨hsteps, target, hwalk, carries_of_source policy _ target hsource hsome⟩

end Kept

/-- The lines of a value have different paths, if no key stands twice in a record and no key is empty or
holds a dot or an opening bracket. Followed from where the value stands, the path of a line leads to the
leaf, or to the list without lists and records, that the text of the line is taken from. -/
theorem lines_followed (policy : Policy) (path : Text) (value : Value)
    (hdistinct : value.DistinctKeys) (hplain : PlainKeys value) :
    lines policy path value = (entries policy path value).map Entry.line ∧
      ((entries policy path value).map Entry.path).Nodup ∧
      ∀ entry ∈ entries policy path value, ∃ target,
        follow? path value entry.path = some target ∧
        Carries policy entry.path target entry.text := by
  have hkept := walk?_of_mem_kept policy path value hdistinct hplain
  refine ⟨?_, ?_, ?_⟩
  · rw [lines_eq_kept, entries, List.map_map]
    rfl
  · -- Paths are read back into steps, so they differ where the steps do.
    rw [entries, List.map_map, List.Nodup, List.pairwise_map]
    refine (pairwise_kept policy path value hdistinct).imp_of_mem fun hfirst hsecond hne heq => ?_
    exact hne (pathTo_inj path _ _ (hkept _ hfirst).1 (hkept _ hsecond).1 heq)
  · intro entry hentry
    obtain ⟨found, hfound, rfl⟩ := List.mem_map.1 hentry
    obtain ⟨hsteps, target, hwalk, hcarries⟩ := hkept found hfound
    exact ⟨target, (follow?_pathTo path value found.steps hsteps).trans hwalk, hcarries⟩

/-- Keys of which one starts with another one, and lists in a list, behind a path that looks like steps
of its own. -/
theorem lines_followed_nested :
    let path : Text := ['k', '[', '1', ']']
    let value : Value := .record [(['a'], .list [.list [.text ['x'], .int 7], .record []]),
      (['a', 'b'], .record [(['a', ']'], .text ['y'])])]
    value.DistinctKeys ∧ PlainKeys value ∧
    lines .standard path value = ["k[1].a[0]: x".toList, "k[1].ab.a]: y".toList] ∧
    follow? path value "k[1].a[0]".toList = some (.list [.text ['x'], .int 7]) ∧
    Carries .standard "k[1].a[0]".toList (.list [.text ['x'], .int 7]) ['x'] := by
  intro path value
  have hread : Json.read
      "\x7b\"a\":[[\"x\",7],\x7b\x7d],\"ab\":\x7b\"a]\":\"y\"\x7d\x7d".toList = .ok value := by
    cbv
  have hdistinct := Json.distinctKeys_of_read _ value hread
  have hplain : PlainKeys value := by
    have htext (t : Text) (holds : Fields → Prop) : (Value.text t).EachRecord holds :=
      Value.eachRecord_leaf holds _ rfl
    have hint (n : Int) (holds : Fields → Prop) : (Value.int n).EachRecord holds :=
      Value.eachRecord_leaf holds _ rfl
    simp only [PlainKeys, value, Value.eachRecord_record, Value.eachRecord_list, List.forall_mem_cons,
      htext, hint, PlainKey]
    simp
  have hkept : kept .standard path value = [⟨[.field ['a'], .item 0], [['x']]⟩,
      ⟨[.field ['a', 'b'], .field ['a', ']']], [['y']]⟩] := by cbv
  have hentries : entries .standard path value =
      [⟨"k[1].a[0]".toList, ['x']⟩, ⟨"k[1].ab.a]".toList, ['y']⟩] := by
    rw [entries, hkept]
    rfl
  have hfollow : follow? path value "k[1].a[0]".toList = some (.list [.text ['x'], .int 7]) := by
    cbv
  obtain ⟨hlines, -, hfollowed⟩ := lines_followed .standard path value hdistinct hplain
  rw [hentries] at hlines hfollowed
  obtain ⟨target, htarget, hcarries⟩ := hfollowed _ List.mem_cons_self
  obtain rfl := Option.some.inj (hfollow.symm.trans htarget)
  exact ⟨hdistinct, hplain, hlines, hfollow, hcarries⟩

end Quarry.Flatten
