import Mathlib
import Quarry.Proofs.Flatten.Spots
import Quarry.Proofs.Policy.KeyName

/-! A record at a place of a stream, or as a document of its own. What is kept of it is the same
wherever it stands, and its lines differ in nothing but the path in front. -/
namespace Quarry.Flatten

open Json (Value)
open Policy (keyName)

/-- How a step is written behind a path that is not empty. -/
def Step.text : Step → Text
  | .field key => '.' :: key
  | .item index => itemPath [] index

theorem itemPath_eq (path : Text) (index : Nat) : itemPath path index = path ++ itemPath [] index := by
  simp [itemPath]

theorem itemPath_ne_nil (path : Text) (index : Nat) : itemPath path index ≠ [] := by
  simp [itemPath]

/-- Behind a path that is not empty, each step is written behind the steps before it. -/
theorem pathTo_eq (path : Text) (steps : List Step) (hn : path ≠ []) :
    pathTo path steps = path ++ steps.flatMap Step.text := by
  induction steps generalizing path with
  | nil => simp [pathTo]
  | cons step steps ih =>
    have hstep : step.extend path = path ++ step.text := by
      cases step with
      | field key => simp [Step.extend, Step.text, fieldPath, hn]
      | item index => exact itemPath_eq path index
    have hnext : step.extend path ≠ [] := by simp [hstep, hn]
    calc pathTo path (step :: steps) = pathTo (step.extend path) steps := rfl
      _ = step.extend path ++ steps.flatMap Step.text := ih _ hnext
      _ = path ++ (step :: steps).flatMap Step.text := by simp [hstep]

section KeyNames

theorem mem_itemPath (index : Nat) (c : Char) (h : c ∈ itemPath [] index) :
    c = '[' ∨ c = ']' ∨ Text.isDigit c = true := by
  simp only [itemPath, List.nil_append, List.cons_append, List.mem_cons, List.mem_append,
    List.not_mem_nil, or_false] at h
  rcases h with h | h | h
  · exact Or.inl h
  · exact Or.inr (Or.inr (Text.isDigit_of_mem_ofNat index c h))
  · exact Or.inr (Or.inl h)

theorem dropIndices_itemPaths (indices : List Nat) (rest : Text) :
    Policy.dropIndices ((indices.flatMap (itemPath [])).reverse ++ rest) =
      Policy.dropIndices rest := by
  induction indices generalizing rest with
  | nil => rfl
  | cons index others ih =>
    have hreverse : (itemPath [] index).reverse ++ rest =
        ']' :: ((Text.ofNat index).reverse ++ '[' :: rest) := by
      simp [itemPath]
    rw [List.flatMap_cons, List.reverse_append, List.append_assoc, ih, hreverse]
    apply Policy.dropIndices_index
    · intro c hc
      exact Text.isDigit_of_mem_ofNat index c (List.mem_reverse.1 hc)
    · simpa using Text.ofNat_ne_nil index

theorem keyName_itemPaths (indices : List Nat) : keyName (indices.flatMap (itemPath [])) = [] := by
  have hmem (c : Char) (hc : c ∈ indices.flatMap (itemPath [])) :
      c = '[' ∨ c = ']' ∨ Text.isDigit c = true := by
    obtain ⟨index, -, hc⟩ := List.mem_flatMap.1 hc
    exact mem_itemPath index c hc
  -- Neither a dot nor a line feed is written in an index.
  have hdot : Text.isDigit '.' = false := by decide
  have hfeed : Text.isDigit '\n' = false := by decide
  have hsegment : (indices.flatMap (itemPath [])).reverse.takeWhile (· != '.') =
      (indices.flatMap (itemPath [])).reverse := by
    rw [List.takeWhile_eq_self_iff]
    intro c hc
    rcases hmem c (List.mem_reverse.1 hc) with rfl | rfl | hc
    · rfl
    · rfl
    · have hne : c ≠ '.' := by
        rintro rfl
        simp [hdot] at hc
      simpa using hne
  have hplain : '\n' ∉ indices.flatMap (itemPath []) := by
    intro hc
    rcases hmem '\n' hc with h | h | h
    · cases h
    · cases h
    · simp [hfeed] at h
  have hnone : Policy.dropIndices (indices.flatMap (itemPath [])).reverse = [] := by
    have hdrop := dropIndices_itemPaths indices []
    rw [List.append_nil] at hdrop
    rw [hdrop, Policy.dropIndices]
    rfl
  rw [keyName, hsegment, List.reverse_reverse, Policy.withoutIndices_eq _ hplain, hnone]
  rfl

/-- Indices in front of steps do not change the key that the steps lead to. -/
theorem keyName_behind_items (indices : List Nat) (steps : List Step) :
    keyName (indices.flatMap (itemPath []) ++ steps.flatMap Step.text) =
      keyName (steps.flatMap Step.text) := by
  induction steps generalizing indices with
  | nil =>
    have hnone := keyName_itemPaths []
    rw [List.flatMap_nil] at hnone
    rw [List.flatMap_nil, List.append_nil, keyName_itemPaths indices, hnone]
  | cons step steps ih =>
    cases step with
    | field key =>
      have hkey := Policy.keyName_behind [] (key ++ steps.flatMap Step.text)
      rw [List.nil_append] at hkey
      exact (Policy.keyName_behind _ (key ++ steps.flatMap Step.text)).trans hkey.symm
    | item index =>
      -- The indices at the front of the steps join those in front of them.
      have hjoin : indices.flatMap (itemPath []) ++ (Step.item index :: steps).flatMap Step.text =
          (indices ++ [index]).flatMap (itemPath []) ++ steps.flatMap Step.text := by
        simp [Step.text]
      have hone : (Step.item index :: steps).flatMap Step.text =
          [index].flatMap (itemPath []) ++ steps.flatMap Step.text := by
        simp [Step.text]
      rw [hjoin, ih, hone, ih]

theorem keyName_pathTo_root (steps : List Step) :
    keyName (pathTo [] steps) = keyName (steps.flatMap Step.text) := by
  induction steps with
  | nil => rfl
  | cons step steps ih =>
    cases step with
    | field key =>
      have hdot : keyName ((Step.field key :: steps).flatMap Step.text) =
          keyName (key ++ steps.flatMap Step.text) :=
        Policy.keyName_behind [] (key ++ steps.flatMap Step.text)
      -- A path stays empty behind an empty key.
      by_cases hkey : key = []
      · subst hkey
        exact ih.trans hdot.symm
      · have hpath : pathTo [] (.field key :: steps) = key ++ steps.flatMap Step.text :=
          pathTo_eq key steps hkey
        rw [hpath, hdot]
    | item index =>
      have hpath : pathTo [] (.item index :: steps) =
          itemPath [] index ++ steps.flatMap Step.text :=
        pathTo_eq _ steps (itemPath_ne_nil [] index)
      rw [hpath]
      rfl

/-- The key that steps lead to is the same at any place of a stream and at the root. -/
theorem keyName_pathTo_item (index : Nat) (steps : List Step) :
    keyName (pathTo (itemPath [] index) steps) = keyName (pathTo [] steps) := by
  have hindices := keyName_behind_items [index] steps
  rw [List.flatMap_cons, List.flatMap_nil, List.append_nil] at hindices
  rw [pathTo_eq _ steps (itemPath_ne_nil [] index), hindices, keyName_pathTo_root]

end KeyNames

section

variable (policy : Policy)

theorem keptTexts_congr (first second : Text) (h : keyName first = keyName second)
    (leaves : List Value) : keptTexts policy first leaves = keptTexts policy second leaves := by
  have hkeeps : policy.keepsText first = policy.keepsText second := by
    funext text
    rw [Policy.keepsText, Policy.keepsText, h]
  rw [keptTexts, keptTexts, hkeeps]

theorem kept_item (index : Nat) (value : Value) :
    kept policy (itemPath [] index) value = kept policy [] value := by
  rw [kept, kept]
  congr 1
  funext spot
  have htexts := keptTexts_congr policy _ _ (keyName_pathTo_item index spot.steps) spot.leaves
  simp only [Spot.kept?, htexts]

theorem line_item (index : Nat) (spot : Spot Text) :
    spot.line (itemPath [] index) = itemPath [] index ++
      (spot.steps.flatMap Step.text ++ ':' :: ' ' :: Text.joined [',', ' '] spot.leaves) := by
  have hpath := pathTo_eq _ spot.steps (itemPath_ne_nil [] index)
  have hn : pathTo (itemPath [] index) spot.steps ≠ [] := by
    simp [hpath, itemPath_ne_nil]
  rw [Spot.line, line, if_neg (by simpa using hn), hpath]
  simp

/-- In front of a line of a field a stream has the place of the record and a dot, if the key of the
field can be seen. -/
theorem line_field (index : Nat) (key : Text) (hkey : key ≠ []) (spot : Spot Text) :
    (spot.under (.field key)).line (itemPath [] index) =
      itemPath [] index ++ '.' :: (spot.under (.field key)).line [] := by
  have hroot : pathTo [] (.field key :: spot.steps) = key ++ spot.steps.flatMap Step.text :=
    pathTo_eq key spot.steps hkey
  rw [line_item]
  simp [Spot.line, Spot.under, line, hroot, hkey, Step.text]

theorem mem_fieldSpots (fields : List (Text × Value)) (spot : Spot Value)
    (h : spot ∈ fieldSpots fields) :
    ∃ field ∈ fields, ∃ inner : Spot Value, spot = inner.under (.field field.1) := by
  rw [fieldSpots_eq_flatMap] at h
  obtain ⟨field, hfield, hspot⟩ := List.mem_flatMap.1 h
  obtain ⟨inner, -, rfl⟩ := List.mem_map.1 hspot
  exact ⟨field, hfield, inner, rfl⟩

/-- What is kept of a record is behind a step to one of its fields. -/
theorem mem_kept_record (path : Text) (fields : List (Text × Value)) (spot : Spot Text)
    (h : spot ∈ kept policy path (.record fields)) :
    ∃ field ∈ fields, ∃ inner : Spot Text, spot = inner.under (.field field.1) := by
  obtain ⟨found, hfound, hkept⟩ := List.mem_filterMap.1 h
  obtain ⟨field, hfield, inner, rfl⟩ := mem_fieldSpots fields found (by rwa [spots] at hfound)
  have hsteps : spot.steps = .field field.1 :: inner.steps :=
    (kept?_eq_some policy path _ spot hkept).1
  refine ⟨field, hfield, ⟨inner.steps, spot.leaves⟩, ?_⟩
  rw [Spot.under, ← hsteps]

end

/-- The lines of a value at two places of a stream differ in the place alone, and what is kept of it
is what is kept of it as a document. The lines of a record whose keys are not empty are those of the
document, each with the place of the record and a dot in front. -/
theorem lines_at_place (policy : Policy) (value : Value) :
    (∃ tails : List Text, ∀ index,
      lines policy (itemPath [] index) value = tails.map fun tail => itemPath [] index ++ tail) ∧
    (∀ index, kept policy (itemPath [] index) value = kept policy [] value) ∧
    ∀ fields, value = .record fields → (∀ field ∈ fields, field.1 ≠ []) → ∀ index,
      lines policy (itemPath [] index) value =
        (lines policy [] value).map fun line => itemPath [] index ++ '.' :: line := by
  refine ⟨⟨(kept policy [] value).map fun spot => spot.steps.flatMap Step.text ++
    ':' :: ' ' :: Text.joined [',', ' '] spot.leaves, fun index => ?_⟩,
    fun index => kept_item policy index value, ?_⟩
  · rw [lines_eq_kept, kept_item, List.map_map]
    exact List.map_congr_left fun spot _ => line_item index spot
  · rintro fields rfl hkeys index
    rw [lines_eq_kept, lines_eq_kept, kept_item, List.map_map]
    apply List.map_congr_left
    intro spot hspot
    obtain ⟨field, hfield, inner, rfl⟩ := mem_kept_record policy [] fields spot hspot
    exact line_field index field.1 (hkeys field hfield) inner

/-- A record of a list of records and a list of texts, at two places and as a document. -/
theorem lines_at_place_record :
    let fields : List (Text × Value) :=
      [(['a'], .list [.record [([], .text ['x'])], .int 7]), (['b'], .list [.text ['y'], .text ['z']])]
    (∀ field ∈ fields, field.1 ≠ []) ∧
    lines .standard [] (.record fields) = ["a[0].: x".toList, "b: y, z".toList] ∧
    lines .standard (itemPath [] 12) (.record fields) =
      ["[12].a[0].: x".toList, "[12].b: y, z".toList] := by
  intro fields
  have hkeys : ∀ field ∈ fields, field.1 ≠ [] := by decide
  have hroot : lines .standard [] (.record fields) =
      ["a[0].: x".toList, "b: y, z".toList] := by cbv
  refine ⟨hkeys, hroot, ?_⟩
  rw [(lines_at_place .standard (.record fields)).2.2 fields rfl hkeys 12, hroot]
  cbv

end Quarry.Flatten
