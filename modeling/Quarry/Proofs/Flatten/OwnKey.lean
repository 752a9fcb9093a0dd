import Mathlib
import Quarry.Proofs.Flatten.Listing
import Quarry.Proofs.Flatten.Place

/-! The key that a leaf is judged by. It is read off the path, and it is the key of the nearest record
around the leaf, as far as that key can be told from the rest of the path: a dot in a key, or an index
at its end, is taken for a part of the path. -/
namespace Quarry.Flatten

open Json (Value Address)
open Policy (keyName)

/-- The key that holds behind a step, where another one held in front of it. -/
def Step.keyBehind (key : Text) : Step → Text
  | .field next => next
  | .item _ => key

/-- The key of the record that is nearest to an address, or no key. -/
def ownKey (value : Value) (address : Address) : Text :=
  (stepsTo value address).foldl Step.keyBehind []

/-- Items of a key's own list, and of the lists in it, have that key. -/
theorem keyName_items (key : Text) (indices : List Nat) (h : ¬Policy.HidesIndex key) :
    keyName (key ++ indices.flatMap (itemPath [])) = keyName key := by
  induction indices generalizing key with
  | nil => rw [List.flatMap_nil, List.append_nil]
  | cons index others ih =>
    have hpath : key ++ (index :: others).flatMap (itemPath []) =
        key ++ '[' :: (Text.ofNat index ++ [']']) ++ others.flatMap (itemPath []) := by
      simp [itemPath]
    rw [hpath, ih _ (Policy.not_hidesIndex_of_index key _)]
    exact Policy.shortens_keyName.withoutIndex key (Text.ofNat index) (Text.ofNat_ne_nil index)
      (Text.isDigit_of_mem_ofNat index) h

/-- The key that steps lead to is the one of the last field among them. -/
theorem keyName_steps (steps : List Step) (key : Text) (indices : List Nat)
    (h : ¬Policy.HidesIndex (steps.foldl Step.keyBehind key)) :
    keyName (key ++ indices.flatMap (itemPath []) ++ steps.flatMap Step.text) =
      keyName (steps.foldl Step.keyBehind key) := by
  induction steps generalizing key indices with
  | nil =>
    rw [List.flatMap_nil, List.append_nil]
    exact keyName_items key indices h
  | cons step steps ih =>
    cases step with
    | field next =>
      -- Whatever stands in front of the dot is no part of the key.
      have hnext := ih next [] h
      rw [List.flatMap_nil, List.append_nil] at hnext
      exact (Policy.keyName_behind _ (next ++ steps.flatMap Step.text)).trans hnext
    | item index =>
      -- An index stays behind the key until the next field or the end.
      have hjoin : key ++ indices.flatMap (itemPath []) ++ (Step.item index :: steps).flatMap Step.text =
          key ++ (indices ++ [index]).flatMap (itemPath []) ++ steps.flatMap Step.text := by
        simp [Step.text]
      rw [hjoin]
      exact ih key (indices ++ [index]) h

/-- In a document, and in a record of a stream, a leaf is judged by the key of the nearest record. -/
theorem keyName_pathAt (path : Text) (hpath : path = [] ∨ ∃ index, path = itemPath [] index)
    (value : Value) (address : Address) (h : ¬Policy.HidesIndex (ownKey value address)) :
    keyName (pathAt path value address) = keyName (ownKey value address) := by
  have hroot : keyName (pathAt [] value address) = keyName (ownKey value address) :=
    (keyName_pathTo_root _).trans (keyName_steps (stepsTo value address) [] [] h)
  rcases hpath with rfl | ⟨index, rfl⟩
  · exact hroot
  · exact (keyName_pathTo_item index _).trans hroot

theorem keeps_iff (policy : Policy) (path : Text) (leaf : Value) :
    policy.keeps path leaf = true ↔
      ∃ t, leaf = .text t ∧ Text.isBlank t = false ∧ policy.keepsKey (keyName path) = true := by
  cases leaf with
  | text t => simp [Policy.keeps, Policy.keepsText]
  | _ => simp [Policy.keeps]

/-- A leaf of a document, or of a record of a stream, is kept if it is a text that is not blank, under
a key that the policy keeps when it is shortened to what follows its last dot, without the indices at
its end. A key without dots that does not end in an index stays as it is. -/
theorem kept_by_ownKey (policy : Policy) (path : Text)
    (hpath : path = [] ∨ ∃ index, path = itemPath [] index) (value : Value) :
    lines policy path value = listedLines policy path value ∧
    (∀ address leaf, value.at? address = some leaf → leaf.isContainer = false →
      ¬Policy.HidesIndex (ownKey value address) →
      (address ∈ keptAddresses policy path value ↔
        ∃ t, leaf = .text t ∧ Text.isBlank t = false ∧
          policy.keepsKey (keyName (ownKey value address)) = true)) ∧
    Policy.Shortens keyName := by
  refine ⟨lines_eq_listedLines policy path value, ?_, Policy.shortens_keyName⟩
  intro address leaf hleaf hkind hkey
  have hlisted := (value.mem_leafAddresses address).2 ⟨leaf, hleaf, hkind⟩
  rw [keptAddresses, List.mem_filter, keepsAt, hleaf, Option.any_some, keeps_iff,
    keyName_pathAt path hpath value address hkey]
  exact and_iff_right hlisted

/-- A key with a dot whose last segment is denied, with an item of a list that shares the key. -/
theorem kept_by_ownKey_dotted :
    let value : Value := .record [("log.note[2]".toList, .list [.record [], .text ['x']]),
      ("duration.text".toList, .text ['y'])]
    value.at? [0, 1] = some (.text ['x']) ∧ ownKey value [0, 1] = "log.note[2]".toList ∧
    ¬Policy.HidesIndex "log.note[2]".toList ∧ keyName "log.note[2]".toList = "note".toList ∧
    [0, 1] ∈ keptAddresses .standard [] value ∧
    lines .standard [] value = ["log.note[2][1]: x".toList, "duration.text: y".toList] := by
  intro value
  have hat : value.at? [0, 1] = some (.text ['x']) := by cbv
  have hkey : ownKey value [0, 1] = "log.note[2]".toList := by cbv
  have hplain : ¬Policy.HidesIndex "log.note[2]".toList :=
    Policy.not_hidesIndex_of_index "log.note".toList ['2']
  have hname : keyName "log.note[2]".toList = "note".toList := by cbv
  have hprose : Policy.standard.keepsKey "note".toList = true := by cbv
  obtain ⟨hlines, hleaf, -⟩ := kept_by_ownKey .standard [] (Or.inl rfl) value
  have hkept : [0, 1] ∈ keptAddresses .standard [] value := by
    rw [hleaf [0, 1] (.text ['x']) hat rfl (hkey ▸ hplain), hkey, hname]
    exact ⟨['x'], rfl, by decide, hprose⟩
  refine ⟨hat, hkey, hplain, hname, hkept, ?_⟩
  rw [hlines]
  cbv

/-- The policy keeps the key, but not what follows its dot. -/
theorem dottedKey_is_cut :
    let value : Value := .record [("a.id".toList, .text ['x'])]
    value.at? [0] = some (.text ['x']) ∧ ownKey value [0] = "a.id".toList ∧
    Text.isBlank ['x'] = false ∧ Policy.standard.keepsKey "a.id".toList = true ∧
    lines .standard [] value = [] := by
  refine ⟨?_, ?_, ?_, ?_, ?_⟩
  · cbv
  · cbv
  · decide
  · cbv
  · cbv

end Quarry.Flatten
