import Mathlib
import Quarry.Proofs.Flatten.Spots

/-! Leaves that are dropped tell nothing: two values of the same shape whose leaves are the same, but
for those that the policy drops in both, have the same lines. -/
namespace Quarry

namespace Json

mutual

/-- The lists and records of a value, with null in the place of every leaf. -/
def shape : Value → Value
  | .list items => .list (itemShapes items)
  | .record fields => .record (fieldShapes fields)
  | _ => .null

def itemShapes : List Value → List Value
  | [] => []
  | item :: others => shape item :: itemShapes others

def fieldShapes : List (Text × Value) → List (Text × Value)
  | [] => []
  | (key, value) :: others => (key, shape value) :: fieldShapes others

end

theorem shape_leaf (leaf : Value) (h : leaf.isContainer = false) : shape leaf = .null := by
  cases leaf with
  | list items => cases h
  | record fields => cases h
  | _ => rfl

theorem isContainer_shape (value : Value) : (shape value).isContainer = value.isContainer := by
  cases value <;> rfl

theorem itemShapes_eq_map (items : List Value) : itemShapes items = items.map shape := by
  induction items with
  | nil => rfl
  | cons item others ih => rw [itemShapes, ih, List.map_cons]

end Json

namespace Flatten

open Json (Value)

/-- The leaves of a value with their paths, in document order. The items of a list without lists and
records are all at the path of the list. -/
def leaves (path : Text) (value : Value) : List (Text × Value) :=
  (spots value).flatMap fun spot => spot.leaves.map fun leaf => (pathTo path spot.steps, leaf)

/-- What the policy keeps of a leaf. -/
def keptText? (policy : Policy) : Text × Value → Option Text
  | (path, .text t) => if policy.keepsText path t then some t else none
  | _ => none

theorem keptTexts_eq (policy : Policy) (path : Text) (found : List Value) :
    keptTexts policy path found =
      (found.map fun leaf => keptText? policy (path, leaf)).filterMap id := by
  rw [List.filterMap_map, keptTexts]
  congr 1
  funext leaf
  cases leaf <;> rfl

theorem keptText?_of_dropped (policy : Policy) (leaf : Text × Value)
    (h : policy.keeps leaf.1 leaf.2 = false) : keptText? policy leaf = none := by
  obtain ⟨path, value⟩ := leaf
  cases value with
  | text t =>
    have hdrop : policy.keepsText path t = false := h
    simp [keptText?, hdrop]
  | _ => rfl

section Shapes

/-- A spot with null in the place of every leaf. -/
def Spot.blank (spot : Spot Value) : Spot Value := ⟨spot.steps, spot.leaves.map fun _ => .null⟩

theorem map_blank_under (step : Step) (found : List (Spot Value)) :
    (found.map (Spot.under step)).map Spot.blank = (found.map Spot.blank).map (Spot.under step) := by
  rw [List.map_map, List.map_map]
  rfl

theorem itemSpots_shapes (items : List Value)
    (h : ∀ item ∈ items, spots (Json.shape item) = (spots item).map Spot.blank) (index : Nat) :
    itemSpots index (Json.itemShapes items) = (itemSpots index items).map Spot.blank := by
  induction items generalizing index with
  | nil => rfl
  | cons item others ih =>
    have hitem := h item List.mem_cons_self
    have hothers := ih (fun other hother => h other (List.mem_cons_of_mem _ hother)) (index + 1)
    rw [Json.itemShapes, itemSpots, itemSpots, List.map_append, map_blank_under, hitem, hothers]

theorem fieldSpots_shapes (fields : List (Text × Value))
    (h : ∀ field ∈ fields, spots (Json.shape field.2) = (spots field.2).map Spot.blank) :
    fieldSpots (Json.fieldShapes fields) = (fieldSpots fields).map Spot.blank := by
  induction fields with
  | nil => rfl
  | cons field others ih =>
    obtain ⟨key, value⟩ := field
    have hvalue := h (key, value) List.mem_cons_self
    have hothers := ih fun other hother => h other (List.mem_cons_of_mem _ hother)
    rw [Json.fieldShapes, fieldSpots, fieldSpots, List.map_append, map_blank_under, hvalue, hothers]

/-- Where the spots are is settled by the shape. -/
theorem spots_shape (value : Value) :
    spots (Json.shape value) = (spots value).map Spot.blank := by
  induction value using Value.induct with
  | leaf value h =>
    rw [Json.shape_leaf value h, spots_leaf value h]
    rfl
  | list items ih =>
    have hany : (Json.itemShapes items).any Value.isContainer = items.any Value.isContainer := by
      rw [Json.itemShapes_eq_map, List.any_map]
      exact List.any_congr rfl fun item => Json.isContainer_shape item
    rw [Json.shape, spots, spots, hany]
    by_cases h : items.any Value.isContainer = true
    · rw [if_pos h, if_pos h, itemSpots_shapes items ih]
    · have hleaves : Json.itemShapes items = items.map fun _ => Value.null := by
        rw [Json.itemShapes_eq_map]
        apply List.map_congr_left
        intro item hitem
        have hleaf : ¬item.isContainer = true := fun hc => h (List.any_eq_true.2 ⟨item, hitem, hc⟩)
        exact Json.shape_leaf item (by simpa using hleaf)
      rw [if_neg h, if_neg h, hleaves]
      rfl
  | record fields ih => rw [Json.shape, spots, spots, fieldSpots_shapes fields ih]

end Shapes

section

variable (policy : Policy) (path : Text)

/-- What is kept of each leaf of a spot. -/
def judged (spot : Spot Value) : List (Option Text) :=
  spot.leaves.map fun leaf => keptText? policy (pathTo path spot.steps, leaf)

theorem kept?_congr (first second : Spot Value) (hsteps : first.steps = second.steps)
    (h : judged policy path first = judged policy path second) :
    first.kept? policy path = second.kept? policy path := by
  have htexts : keptTexts policy (pathTo path first.steps) first.leaves =
      keptTexts policy (pathTo path second.steps) second.leaves := by
    rw [keptTexts_eq, keptTexts_eq]
    exact congrArg (List.filterMap id) h
  rw [Spot.kept?, Spot.kept?, htexts, hsteps]

/-- Spots at the same places are kept alike if their leaves are, one after another. -/
theorem filterMap_kept?_congr (first second : List (Spot Value))
    (hblank : first.map Spot.blank = second.map Spot.blank)
    (h : first.flatMap (judged policy path) = second.flatMap (judged policy path)) :
    first.filterMap (Spot.kept? policy path) = second.filterMap (Spot.kept? policy path) := by
  induction first generalizing second with
  | nil =>
    rw [List.map_nil, eq_comm, List.map_eq_nil_iff] at hblank
    rw [hblank]
  | cons spot others ih =>
    cases second with
    | nil => cases hblank
    | cons other rest =>
      obtain ⟨hspot, hrest⟩ := List.cons.inj hblank
      obtain ⟨hsteps, hleaves⟩ := (Spot.mk.injEq _ _ _ _).mp hspot
      -- The spots have equally many leaves, so that the leaves of the first ones come first in both.
      have hlength : (judged policy path spot).length = (judged policy path other).length := by
        simpa [judged] using congrArg List.length hleaves
      obtain ⟨hhead, htail⟩ := List.append_inj h hlength
      have hkept := kept?_congr policy path spot other hsteps hhead
      rw [List.filterMap_cons, List.filterMap_cons, hkept, ih rest hrest htail]

theorem flatMap_judged (value : Value) :
    (spots value).flatMap (judged policy path) = (leaves path value).map (keptText? policy) := by
  rw [leaves, List.map_flatMap]
  congr 1
  funext spot
  rw [judged, List.map_map]
  rfl

end

/-- Leaves that are the same, or dropped in both, are judged the same. -/
theorem map_keptText?_congr (policy : Policy) (first second : List (Text × Value))
    (h : List.Forall₂ (fun a b => a = b ∨
      policy.keeps a.1 a.2 = false ∧ policy.keeps b.1 b.2 = false) first second) :
    first.map (keptText? policy) = second.map (keptText? policy) := by
  induction h with
  | nil => rfl
  | cons hleaf _ ih =>
    rw [List.map_cons, List.map_cons, ih]
    rcases hleaf with rfl | ⟨hfirst, hsecond⟩
    · rfl
    · rw [keptText?_of_dropped policy _ hfirst, keptText?_of_dropped policy _ hsecond]

/-- Values of the same shape have the same lines if their leaves, one after another, are the same or
dropped in both. -/
theorem lines_of_dropped (policy : Policy) (path : Text) (first second : Value)
    (hshape : Json.shape first = Json.shape second)
    (h : List.Forall₂ (fun a b => a = b ∨
        policy.keeps a.1 a.2 = false ∧ policy.keeps b.1 b.2 = false)
      (leaves path first) (leaves path second)) :
    lines policy path first = lines policy path second := by
  have hblank : (spots first).map Spot.blank = (spots second).map Spot.blank := by
    rw [← spots_shape, ← spots_shape, hshape]
  have hkept : kept policy path first = kept policy path second := by
    apply filterMap_kept?_congr policy path _ _ hblank
    rw [flatMap_judged, flatMap_judged, map_keptText?_congr policy _ _ h]
  rw [lines_eq_kept, lines_eq_kept, hkept]

/-- An identifier, a time, a flag and a blank text give way to others or to something else. -/
theorem lines_of_dropped_records :
    let first : Value := .record [("id".toList, .text ['x']), ("title".toList, .text ['T']),
      ("log".toList, .list [.record [("savedAt".toList, .text ['8'])], .text [' ']]),
      ("tags".toList, .list [.text ['a'], .bool true])]
    let second : Value := .record [("id".toList, .null), ("title".toList, .text ['T']),
      ("log".toList, .list [.record [("savedAt".toList, .text ['9'])], .int 3]),
      ("tags".toList, .list [.text ['a'], .text []])]
    Json.shape first = Json.shape second ∧
    List.Forall₂ (fun a b => a = b ∨
        Policy.standard.keeps a.1 a.2 = false ∧ Policy.standard.keeps b.1 b.2 = false)
      (leaves ['p'] first) (leaves ['p'] second) ∧
    lines .standard ['p'] first = lines .standard ['p'] second := by
  intro first second
  have hshape : Json.shape first = Json.shape second := by cbv
  have hfirst : leaves ['p'] first = [("p.id".toList, .text ['x']),
      ("p.title".toList, .text ['T']), ("p.log[0].savedAt".toList, .text ['8']),
      ("p.log[1]".toList, .text [' ']), ("p.tags".toList, .text ['a']),
      ("p.tags".toList, .bool true)] := by cbv
  have hsecond : leaves ['p'] second = [("p.id".toList, .null),
      ("p.title".toList, .text ['T']), ("p.log[0].savedAt".toList, .text ['9']),
      ("p.log[1]".toList, .int 3), ("p.tags".toList, .text ['a']),
      ("p.tags".toList, .text [])] := by cbv
  have hleaves : List.Forall₂ (fun a b => a = b ∨
        Policy.standard.keeps a.1 a.2 = false ∧ Policy.standard.keeps b.1 b.2 = false)
      (leaves ['p'] first) (leaves ['p'] second) := by
    rw [hfirst, hsecond]
    refine .cons (Or.inr ⟨?_, rfl⟩) (.cons (Or.inl rfl) (.cons (Or.inr ⟨?_, ?_⟩)
      (.cons (Or.inr ⟨?_, rfl⟩) (.cons (Or.inl rfl) (.cons (Or.inr ⟨rfl, ?_⟩) .nil)))))
    · cbv
    · cbv
    · cbv
    · cbv
    · cbv
  exact ⟨hshape, hleaves, lines_of_dropped .standard ['p'] first second hshape hleaves⟩

end Flatten
end Quarry
