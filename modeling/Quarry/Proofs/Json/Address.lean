import Mathlib
import Quarry.Proofs.Json.Induction

/-! The places inside a JSON value. An address tells at each level which field or item to go on with,
and the leaves of a value are listed by their addresses, depth first. -/
namespace Quarry.Json

/-- The way from a value to one inside it: at each level the number of the field or item. -/
abbrev Address := List Nat

/-- The values of the fields of a record, or the items of a list. -/
def Value.children : Value → List Value
  | .list items => items
  | .record fields => fields.map (·.2)
  | _ => []

/-- The value at an address, if the address does not lead out of the value. -/
def Value.at? : Value → Address → Option Value
  | value, [] => some value
  | value, place :: rest => (value.children[place]?).bind fun child => child.at? rest

mutual

/-- The addresses of all leaves, depth first. -/
def Value.leafAddresses : Value → List Address
  | .list items => itemLeaves 0 items
  | .record fields => fieldLeaves 0 fields
  | _ => [[]]

def itemLeaves (place : Nat) : List Value → List Address
  | [] => []
  | item :: others => item.leafAddresses.map (place :: ·) ++ itemLeaves (place + 1) others

def fieldLeaves (place : Nat) : List (Text × Value) → List Address
  | [] => []
  | (_, value) :: others => value.leafAddresses.map (place :: ·) ++ fieldLeaves (place + 1) others

end

theorem itemLeaves_eq (items : List Value) (place : Nat) :
    itemLeaves place items = (items.zipIdx place).flatMap fun child =>
      child.1.leafAddresses.map (child.2 :: ·) := by
  induction items generalizing place with
  | nil => rfl
  | cons item others ih => rw [itemLeaves, ih, List.zipIdx_cons, List.flatMap_cons]

theorem fieldLeaves_eq (fields : List (Text × Value)) (place : Nat) :
    fieldLeaves place fields = itemLeaves place (fields.map (·.2)) := by
  induction fields generalizing place with
  | nil => rfl
  | cons field others ih => rw [fieldLeaves, ih, List.map_cons, itemLeaves]

namespace Value

@[simp]
theorem at?_nil (value : Value) : value.at? [] = some value := rfl

theorem at?_cons {value child : Value} {place : Nat} (h : value.children[place]? = some child)
    (rest : Address) : value.at? (place :: rest) = child.at? rest := by
  rw [Value.at?, h, Option.bind_some]

theorem children_leaf (leaf : Value) (h : leaf.isContainer = false) : leaf.children = [] := by
  cases leaf with
  | list items => cases h
  | record fields => cases h
  | _ => rfl

theorem leafAddresses_leaf (leaf : Value) (h : leaf.isContainer = false) :
    leaf.leafAddresses = [[]] := by
  cases leaf with
  | list items => cases h
  | record fields => cases h
  | _ => rfl

/-- The leaves of a list or record are those of its children, one child after the other. -/
theorem leafAddresses_container (value : Value) (h : value.isContainer = true) :
    value.leafAddresses = value.children.zipIdx.flatMap fun child =>
      child.1.leafAddresses.map (child.2 :: ·) := by
  cases value with
  | list items => rw [leafAddresses, itemLeaves_eq, children]
  | record fields => rw [leafAddresses, fieldLeaves_eq, itemLeaves_eq, children]
  | _ => cases h

/-- What holds of all leaves, and of lists and records if it holds of their children, holds of every
value. -/
@[elab_as_elim]
theorem inductChildren {motive : Value → Prop}
    (leaf : ∀ value, value.isContainer = false → motive value)
    (container : ∀ value, value.isContainer = true → (∀ child ∈ value.children, motive child) →
      motive value)
    (value : Value) : motive value := by
  induction value using Value.induct with
  | leaf value h => exact leaf value h
  | list items ih => exact container (.list items) rfl ih
  | record fields ih =>
    refine container (.record fields) rfl fun child hchild => ?_
    obtain ⟨field, hfield, rfl⟩ := List.mem_map.1 hchild
    exact ih field hfield

/-- The listed addresses are exactly those of leaves. -/
theorem mem_leafAddresses (value : Value) (address : Address) :
    address ∈ value.leafAddresses ↔
      ∃ leaf, value.at? address = some leaf ∧ leaf.isContainer = false := by
  induction value using inductChildren generalizing address with
  | leaf value h =>
    rw [leafAddresses_leaf value h, List.mem_singleton]
    cases address with
    | nil => simp [h]
    | cons place rest => simp [Value.at?, children_leaf value h]
  | container value h ih =>
    rw [leafAddresses_container value h, List.mem_flatMap]
    constructor
    · rintro ⟨⟨child, place⟩, hchild, haddress⟩
      obtain ⟨rest, hrest, rfl⟩ := List.mem_map.1 haddress
      have hplace := List.mem_zipIdx_iff_getElem?.1 hchild
      rw [at?_cons hplace]
      exact (ih child (List.mem_of_getElem? hplace) rest).1 hrest
    · rintro ⟨leaf, hleaf, hkind⟩
      cases address with
      | nil =>
        -- The value itself is no leaf.
        obtain rfl := Option.some.inj hleaf
        rw [h] at hkind
        cases hkind
      | cons place rest =>
        obtain ⟨child, hplace, hrest⟩ := Option.bind_eq_some_iff.1 hleaf
        refine ⟨(child, place), List.mem_zipIdx_iff_getElem?.2 hplace, ?_⟩
        exact List.mem_map_of_mem
          ((ih child (List.mem_of_getElem? hplace) rest).2 ⟨leaf, hrest, hkind⟩)

theorem pairwise_zipIdx (values : List Value) (start : Nat) :
    (values.zipIdx start).Pairwise fun first second => first.2 < second.2 := by
  induction values generalizing start with
  | nil => exact .nil
  | cons value others ih =>
    rw [List.zipIdx_cons, List.pairwise_cons]
    exact ⟨fun other hother => List.le_snd_of_mem_zipIdx hother, ih (start + 1)⟩

/-- The addresses are listed in the order of the document, each of them once. -/
theorem pairwise_leafAddresses (value : Value) : value.leafAddresses.Pairwise (· < ·) := by
  induction value using inductChildren with
  | leaf value h =>
    rw [leafAddresses_leaf value h]
    exact List.pairwise_singleton ..
  | container value h ih =>
    rw [leafAddresses_container value h, List.pairwise_flatMap]
    constructor
    · -- Within a child its own addresses decide, behind the same place.
      rintro ⟨child, place⟩ hchild
      have hmem := List.mem_of_getElem? (List.mem_zipIdx_iff_getElem?.1 hchild)
      rw [List.pairwise_map]
      exact (ih child hmem).imp fun hlt => List.cons_lt_cons_iff.2 (Or.inr ⟨rfl, hlt⟩)
    · refine (pairwise_zipIdx value.children 0).imp fun hlt first hfirst second hsecond => ?_
      obtain ⟨_, -, rfl⟩ := List.mem_map.1 hfirst
      obtain ⟨_, -, rfl⟩ := List.mem_map.1 hsecond
      exact List.cons_lt_cons_iff.2 (Or.inl hlt)

end Value
end Quarry.Json
