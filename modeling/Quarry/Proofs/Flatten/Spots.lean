import Quarry.Flatten
import Quarry.Proofs.Json.Induction

/-! The spots of a JSON value that lines come from, in document order. What stands at a spot, and the
steps that lead there, do not depend on where the value itself is. So flattening a value at a path
comes down to keeping what the policy keeps at each spot, and to writing the path in front of it. -/
namespace Quarry.Flatten

open Json (Value)

/-- A step into a value: to a field of a record or to an item of a list. -/
inductive Step where
  | field (key : Text)
  | item (index : Nat)
  deriving DecidableEq, Repr

/-- The path that a step leads to. -/
def Step.extend (path : Text) : Step → Text
  | .field key => fieldPath path key
  | .item index => itemPath path index

/-- The path that steps lead to. -/
def pathTo (path : Text) (steps : List Step) : Text := steps.foldl Step.extend path

/-- The steps to a place in a value, and what stands there: one leaf, or all leaves of a list
without lists and records. -/
structure Spot (α : Type) where
  steps : List Step
  leaves : List α

/-- A spot as it is seen from above a step. -/
def Spot.under {α : Type} (step : Step) (spot : Spot α) : Spot α :=
  ⟨step :: spot.steps, spot.leaves⟩

mutual

/-- The spots of a value in document order. -/
def spots : Value → List (Spot Value)
  | .list items => if items.any Value.isContainer then itemSpots 0 items else [⟨[], items⟩]
  | .record fields => fieldSpots fields
  | leaf => [⟨[], [leaf]⟩]

def itemSpots (index : Nat) : List Value → List (Spot Value)
  | [] => []
  | item :: others =>
    (spots item).map (Spot.under (.item index)) ++ itemSpots (index + 1) others

def fieldSpots : List (Text × Value) → List (Spot Value)
  | [] => []
  | (key, value) :: others => (spots value).map (Spot.under (.field key)) ++ fieldSpots others

end

theorem spots_leaf (leaf : Value) (h : leaf.isContainer = false) :
    spots leaf = [⟨[], [leaf]⟩] := by
  cases leaf with
  | list items => cases h
  | record fields => cases h
  | _ => rfl

theorem itemSpots_eq_flatMap (items : List Value) (index : Nat) :
    itemSpots index items = (items.zipIdx index).flatMap fun item =>
      (spots item.1).map (Spot.under (.item item.2)) := by
  induction items generalizing index with
  | nil => rfl
  | cons item others ih => rw [itemSpots, ih, List.zipIdx_cons, List.flatMap_cons]

theorem fieldSpots_eq_flatMap (fields : List (Text × Value)) :
    fieldSpots fields = fields.flatMap fun field =>
      (spots field.2).map (Spot.under (.field field.1)) := by
  induction fields with
  | nil => rfl
  | cons field others ih =>
    obtain ⟨key, value⟩ := field
    rw [fieldSpots, ih, List.flatMap_cons]

/-- What the policy keeps of a spot, if it keeps anything. -/
def Spot.kept? (policy : Policy) (path : Text) (spot : Spot Value) : Option (Spot Text) :=
  let texts := keptTexts policy (pathTo path spot.steps) spot.leaves
  if texts.isEmpty then none else some ⟨spot.steps, texts⟩

/-- What the policy keeps of a value at a path, spot by spot. -/
def kept (policy : Policy) (path : Text) (value : Value) : List (Spot Text) :=
  (spots value).filterMap (Spot.kept? policy path)

/-- The line of what is kept of a spot. -/
def Spot.line (path : Text) (spot : Spot Text) : Text :=
  Flatten.line (pathTo path spot.steps) (Text.joined [',', ' '] spot.leaves)

/-- The line that a spot gives, if it gives any. -/
def Spot.line? (policy : Policy) (path : Text) (spot : Spot Value) : Option Text :=
  (spot.kept? policy path).map (Spot.line path)

section

variable (policy : Policy) (path : Text)

theorem kept?_eq_some (spot : Spot Value) (found : Spot Text)
    (h : spot.kept? policy path = some found) : found.steps = spot.steps ∧
      found.leaves = keptTexts policy (pathTo path spot.steps) spot.leaves ∧ found.leaves ≠ [] := by
  unfold Spot.kept? at h
  dsimp only at h
  split at h
  · cases h
  · rename_i hkept
    obtain rfl := Option.some.inj h
    exact ⟨rfl, rfl, fun hnone => hkept (List.isEmpty_iff.2 hnone)⟩

/-- Seen from above a step, a spot gives the line that it gives behind the step. -/
theorem line?_under (step : Step) (spot : Spot Value) :
    (spot.under step).line? policy path = spot.line? policy (step.extend path) := by
  have hpath : pathTo path (step :: spot.steps) = pathTo (step.extend path) spot.steps := rfl
  by_cases h : (keptTexts policy (pathTo (step.extend path) spot.steps) spot.leaves).isEmpty = true
  · simp [Spot.line?, Spot.kept?, Spot.under, hpath, h]
  · simp [Spot.line?, Spot.kept?, Spot.under, Spot.line, hpath, h]

theorem filterMap_under (step : Step) (found : List (Spot Value)) :
    (found.map (Spot.under step)).filterMap (Spot.line? policy path) =
      found.filterMap (Spot.line? policy (step.extend path)) := by
  rw [List.filterMap_map]
  congr 1
  funext spot
  exact line?_under policy path step spot

theorem itemLines_eq_flatMap (items : List Value) (index : Nat) :
    itemLines policy path index items = (items.zipIdx index).flatMap fun item =>
      lines policy (itemPath path item.2) item.1 := by
  induction items generalizing index with
  | nil => rfl
  | cons item others ih => rw [itemLines, ih, List.zipIdx_cons, List.flatMap_cons]

theorem fieldLines_eq_flatMap (fields : List (Text × Value)) :
    fieldLines policy path fields = fields.flatMap fun field =>
      lines policy (fieldPath path field.1) field.2 := by
  induction fields with
  | nil => rfl
  | cons field others ih => rw [fieldLines, ih, List.flatMap_cons]

theorem leafListLines_eq (leaves : List Value) :
    leafListLines policy path leaves = [⟨[], leaves⟩].filterMap (Spot.line? policy path) := by
  by_cases h : (keptTexts policy path leaves).isEmpty = true
  · simp [leafListLines, Spot.line?, Spot.kept?, pathTo, h]
  · simp [leafListLines, Spot.line?, Spot.kept?, Spot.line, pathTo, h]

/-- A leaf gives the line that it gives as the only item of a list. -/
theorem lines_leaf (leaf : Value) (h : leaf.isContainer = false) :
    lines policy path leaf = leafListLines policy path [leaf] := by
  cases leaf with
  | text t =>
    by_cases hkept : policy.keepsText path t = true
    · simp [lines, leafListLines, keptTexts, Text.joined, hkept]
    · simp [lines, leafListLines, keptTexts, hkept]
  | list items => cases h
  | record fields => cases h
  | _ => rfl

end

theorem itemLines_eq_spots (policy : Policy) (items : List Value)
    (h : ∀ item ∈ items, ∀ path,
      lines policy path item = (spots item).filterMap (Spot.line? policy path))
    (path : Text) (index : Nat) :
    itemLines policy path index items =
      (itemSpots index items).filterMap (Spot.line? policy path) := by
  induction items generalizing index with
  | nil => rfl
  | cons item others ih =>
    have hitem := h item List.mem_cons_self (itemPath path index)
    have hothers := ih (fun other hother => h other (List.mem_cons_of_mem _ hother)) (index + 1)
    -- The path of an item is the one behind the step to it.
    rw [itemLines, itemSpots, List.filterMap_append, filterMap_under, hitem, hothers]
    rfl

theorem fieldLines_eq_spots (policy : Policy) (fields : List (Text × Value))
    (h : ∀ field ∈ fields, ∀ path,
      lines policy path field.2 = (spots field.2).filterMap (Spot.line? policy path))
    (path : Text) :
    fieldLines policy path fields = (fieldSpots fields).filterMap (Spot.line? policy path) := by
  induction fields with
  | nil => rfl
  | cons field others ih =>
    obtain ⟨key, value⟩ := field
    have hvalue := h (key, value) List.mem_cons_self (fieldPath path key)
    have hothers := ih fun other hother => h other (List.mem_cons_of_mem _ hother)
    rw [fieldLines, fieldSpots, List.filterMap_append, filterMap_under, hvalue, hothers]
    rfl

/-- The lines of a value are those of its spots. -/
theorem lines_eq_spots (policy : Policy) (path : Text) (value : Value) :
    lines policy path value = (spots value).filterMap (Spot.line? policy path) := by
  induction value using Value.induct generalizing path with
  | leaf value h => rw [lines_leaf policy path value h, leafListLines_eq, spots_leaf value h]
  | list items ih =>
    by_cases h : items.any Value.isContainer = true
    · rw [lines, spots, if_pos h, if_pos h, itemLines_eq_spots policy items ih]
    · rw [lines, spots, if_neg h, if_neg h, leafListLines_eq]
  | record fields ih => rw [lines, spots, fieldLines_eq_spots policy fields ih]

theorem lines_eq_kept (policy : Policy) (path : Text) (value : Value) :
    lines policy path value = (kept policy path value).map (Spot.line path) := by
  rw [lines_eq_spots, kept, List.map_filterMap]
  rfl

end Quarry.Flatten
