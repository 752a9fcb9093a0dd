import Mathlib
import Quarry.Proofs.Flatten.Spots
import Quarry.Proofs.Json.Address

/-! Flattening as a list of leaves. All leaves of a value are listed with their paths, those that the
policy keeps stay, and each of them gives a line. Only the leaves of a list without lists and records
share a line. -/
namespace Quarry.Flatten

open Json (Value Address)

/-- Lists without lists and records. Their items are not numbered. -/
def isLeafList : Value → Bool
  | .list items => !items.any Value.isContainer
  | _ => false

/-- What the step to a child adds to a path: the key of a field, or the number of an item, but
nothing in a list without lists and records. -/
def stepAt? : Value → Nat → Option Step
  | .record fields, place => fields[place]?.map fun field => .field field.1
  | .list items, place => if items.any Value.isContainer then some (.item place) else none
  | _, _ => none

/-- The path of a child. -/
def childPath (path : Text) (value : Value) (place : Nat) : Text :=
  pathTo path (stepAt? value place).toList

/-- The steps that are written on the way to an address. -/
def stepsTo : Value → Address → List Step
  | _, [] => []
  | value, place :: rest =>
    (stepAt? value place).toList ++ match value.children[place]? with
      | some child => stepsTo child rest
      | none => []

/-- The path of what stands at an address. -/
def pathAt (path : Text) (value : Value) (address : Address) : Text :=
  pathTo path (stepsTo value address)

/-- Whether the policy keeps the leaf at an address. -/
def keepsAt (policy : Policy) (path : Text) (value : Value) (address : Address) : Bool :=
  (value.at? address).any fun leaf => policy.keeps (pathAt path value address) leaf

/-- The leaves that the policy keeps, in the order of the document. -/
def keptAddresses (policy : Policy) (path : Text) (value : Value) : List Address :=
  value.leafAddresses.filter (keepsAt policy path value)

/-- The address of the list that a leaf is an item of, if no list or record is in it. -/
def leafListOf? (value : Value) (address : Address) : Option Address :=
  if !address.isEmpty && (value.at? address.dropLast).any isLeafList then some address.dropLast
  else none

/-- Whether two leaves are items of one list without lists and records. -/
def sharesLine (value : Value) (first second : Address) : Bool :=
  (leafListOf? value first).isSome && leafListOf? value first == leafListOf? value second

def textAt? (value : Value) (address : Address) : Option Text :=
  match value.at? address with
  | some (.text t) => some t
  | _ => none

/-- The line of leaves at one path: the path, and the texts of the leaves side by side. -/
def lineAt (path : Text) (value : Value) (group : List Address) : Text :=
  line (pathAt path value (group.headD []))
    (Text.joined [',', ' '] (group.filterMap (textAt? value)))

/-- The lines of the leaves that the policy keeps. -/
def listedLines (policy : Policy) (path : Text) (value : Value) : List Text :=
  ((keptAddresses policy path value).splitBy (sharesLine value)).map (lineAt path value)

section Splitting

variable {α β : Type*}

theorem splitBy_map (related : β → β → Bool) (f : α → β) (found : List α) :
    (found.map f).splitBy related =
      (found.splitBy fun first second => related (f first) (f second)).map (List.map f) := by
  rw [List.splitBy_eq_iff]
  refine ⟨?_, ?_, ?_, ?_⟩
  · rw [← List.map_flatten, List.flatten_splitBy]
  · intro hnil
    obtain ⟨group, hgroup, hempty⟩ := List.mem_map.1 hnil
    rw [List.map_eq_nil_iff] at hempty
    subst hempty
    exact List.nil_notMem_splitBy _ _ hgroup
  · intro group hgroup
    obtain ⟨inner, hinner, rfl⟩ := List.mem_map.1 hgroup
    rw [List.isChain_map]
    exact List.isChain_of_mem_splitBy hinner
  · rw [List.isChain_map]
    refine (List.isChain_getLast_head_splitBy _ found).imp fun first second h => ?_
    obtain ⟨hfirst, hsecond, hrelated⟩ := h
    refine ⟨by simpa using hfirst, by simpa using hsecond, ?_⟩
    rwa [List.getLast_map, List.head_map]

/-- Parts that are unrelated to each other are split one by one. -/
theorem splitBy_flatten_parts (related : α → α → Bool) (parts : List (List α))
    (h : parts.Pairwise fun first second => ∀ a ∈ first, ∀ b ∈ second, related a b = false) :
    parts.flatten.splitBy related = (parts.map (List.splitBy related)).flatten := by
  induction parts with
  | nil => rfl
  | cons part others ih =>
    obtain ⟨hpart, hothers⟩ := List.pairwise_cons.1 h
    rw [List.flatten_cons, List.map_cons, List.flatten_cons, ← ih hothers]
    apply List.splitBy_append
    intro a ha b hb
    obtain ⟨other, hother, hmem⟩ := List.mem_flatten.1 (List.mem_of_mem_head? hb)
    exact hpart other hother a (List.mem_of_mem_getLast? ha) b hmem

end Splitting

section Child

variable {value child : Value} {place : Nat}

theorem pathAt_cons (path : Text) (h : value.children[place]? = some child) (rest : Address) :
    pathAt path value (place :: rest) =
      pathAt (childPath path value place) child rest := by
  simp [pathAt, stepsTo, h, childPath, pathTo]

theorem keepsAt_cons (policy : Policy) (path : Text) (h : value.children[place]? = some child)
    (rest : Address) : keepsAt policy path value (place :: rest) =
      keepsAt policy (childPath path value place) child rest := by
  rw [keepsAt, keepsAt, Value.at?_cons h, pathAt_cons path h]

theorem textAt?_cons (h : value.children[place]? = some child) (rest : Address) :
    textAt? value (place :: rest) = textAt? child rest := by
  rw [textAt?, textAt?, Value.at?_cons h]

theorem lineAt_cons (path : Text) (h : value.children[place]? = some child)
    (group : List Address) (hgroup : group ≠ []) :
    lineAt path value (group.map (place :: ·)) =
      lineAt (childPath path value place) child group := by
  obtain ⟨first, others, rfl⟩ := List.exists_cons_of_ne_nil hgroup
  have htexts : textAt? value ∘ (place :: ·) = textAt? child := funext fun rest => textAt?_cons h rest
  have hpath := pathAt_cons path h first
  rw [lineAt, lineAt, List.filterMap_map, htexts]
  exact congrArg (fun path => line path _) hpath

theorem leafListOf?_cons (hvalue : isLeafList value = false)
    (h : value.children[place]? = some child) (rest : Address) :
    leafListOf? value (place :: rest) = (leafListOf? child rest).map (place :: ·) := by
  cases rest with
  | nil => simp [leafListOf?, hvalue]
  | cons next rest =>
    have hinner : value.at? (place :: (next :: rest).dropLast) =
        child.at? (next :: rest).dropLast := Value.at?_cons h _
    rw [leafListOf?, leafListOf?, List.dropLast_cons_of_ne_nil (by simp), hinner]
    by_cases hlist : (child.at? (next :: rest).dropLast).any isLeafList = true
    · simp [hlist]
    · simp [hlist]

theorem sharesLine_cons (hvalue : isLeafList value = false)
    (h : value.children[place]? = some child) (first second : Address) :
    sharesLine value (place :: first) (place :: second) = sharesLine child first second := by
  rw [sharesLine, sharesLine, leafListOf?_cons hvalue h, leafListOf?_cons hvalue h]
  cases leafListOf? child first with
  | none => rfl
  | some list => cases leafListOf? child second <;> simp

/-- No line goes across two children. -/
theorem sharesLine_apart (hvalue : isLeafList value = false) {other : Value} {further : Nat}
    (h : value.children[place]? = some child) (hother : value.children[further]? = some other)
    (hne : place ≠ further) (first second : Address) :
    sharesLine value (place :: first) (further :: second) = false := by
  rw [sharesLine, leafListOf?_cons hvalue h, leafListOf?_cons hvalue hother]
  cases leafListOf? child first with
  | none => rfl
  | some list => cases leafListOf? other second <;> simp [hne]

end Child

section Branches

variable (policy : Policy) (path : Text)

/-- A value whose children have paths of their own gives their lines, one child after the other. -/
theorem lines_branch (value : Value) (h : value.isContainer = true)
    (hvalue : isLeafList value = false) :
    lines policy path value = value.children.zipIdx.flatMap fun child =>
      lines policy (childPath path value child.2) child.1 := by
  cases value with
  | list items =>
    have hany : items.any Value.isContainer = true := by simpa [isLeafList] using hvalue
    rw [lines, if_pos hany, itemLines_eq_flatMap]
    simp only [childPath, stepAt?, if_pos hany]
    rfl
  | record fields =>
    -- The fields are numbered, so that each of them is found at its number.
    have hnumbered : fields.flatMap (fun field => lines policy (fieldPath path field.1) field.2) =
        fields.zipIdx.flatMap fun field => lines policy (fieldPath path field.1.1) field.1.2 := by
      conv_lhs => rw [← List.zipIdx_map_fst 0 fields, List.flatMap_map]
    rw [lines, fieldLines_eq_flatMap, hnumbered, Value.children, List.zipIdx_map, List.flatMap_map]
    apply List.flatMap_congr
    intro field hfield
    have hplace := List.mem_zipIdx_iff_getElem?.1 hfield
    simp only [Prod.map_fst, Prod.map_snd, id_eq, childPath, stepAt?, hplace]
    rfl
  | _ => cases h

theorem keptAddresses_container (value : Value) (h : value.isContainer = true) :
    keptAddresses policy path value = value.children.zipIdx.flatMap fun child =>
      (keptAddresses policy (childPath path value child.2) child.1).map (child.2 :: ·) := by
  rw [keptAddresses, Value.leafAddresses_container value h, List.filter_flatMap]
  apply List.flatMap_congr
  intro child hchild
  have hplace := List.mem_zipIdx_iff_getElem?.1 hchild
  rw [List.filter_map]
  congr 2
  funext rest
  exact keepsAt_cons policy path hplace rest

/-- What is listed of such a value is what is listed of its children. -/
theorem listedLines_branch (value : Value) (h : value.isContainer = true)
    (hvalue : isLeafList value = false) :
    listedLines policy path value = value.children.zipIdx.flatMap fun child =>
      listedLines policy (childPath path value child.2) child.1 := by
  let part (child : Value × Nat) : List Address :=
    (keptAddresses policy (childPath path value child.2) child.1).map (child.2 :: ·)
  have hkept : keptAddresses policy path value = (value.children.zipIdx.map part).flatten := by
    rw [keptAddresses_container policy path value h, List.flatMap_def]
  have hapart : (value.children.zipIdx.map part).Pairwise fun first second =>
      ∀ a ∈ first, ∀ b ∈ second, sharesLine value a b = false := by
    rw [List.pairwise_map]
    -- Addresses in different children differ in their first place.
    refine (Value.pairwise_zipIdx value.children 0).imp_of_mem fun hfirst hsecond hlt a ha b hb => ?_
    obtain ⟨_, -, rfl⟩ := List.mem_map.1 ha
    obtain ⟨_, -, rfl⟩ := List.mem_map.1 hb
    exact sharesLine_apart hvalue (List.mem_zipIdx_iff_getElem?.1 hfirst)
      (List.mem_zipIdx_iff_getElem?.1 hsecond) (Nat.ne_of_lt hlt) _ _
  -- So the groups are those of the children, seen from above.
  rw [listedLines, hkept, splitBy_flatten_parts _ _ hapart, List.map_map, List.map_flatten,
    List.map_map, ← List.flatMap_def]
  apply List.flatMap_congr
  intro child hchild
  have hplace := List.mem_zipIdx_iff_getElem?.1 hchild
  simp only [Function.comp_apply, part, splitBy_map, List.map_map, sharesLine_cons hvalue hplace]
  apply List.map_congr_left
  intro group hgroup
  exact lineAt_cons path hplace group (List.ne_nil_of_mem_splitBy hgroup)

end Branches

section LeafLists

variable (policy : Policy) (path : Text) {items : List Value}

theorem leafAddresses_leafList (h : items.any Value.isContainer = false) :
    (Value.list items).leafAddresses = items.zipIdx.map fun item => [item.2] := by
  rw [Value.leafAddresses_container _ rfl, ← List.flatMap_pure_eq_map]
  apply List.flatMap_congr
  intro item hitem
  have hmem := List.mem_of_getElem? (List.mem_zipIdx_iff_getElem?.1 hitem)
  have hleaf : item.1.isContainer = false := by simpa using List.any_eq_false.1 h item.1 hmem
  rw [Value.leafAddresses_leaf item.1 hleaf]
  rfl

theorem pathAt_leafList (h : items.any Value.isContainer = false) (place : Nat) :
    pathAt path (.list items) [place] = path := by
  have hstep : stepAt? (.list items) place = none := by simp [stepAt?, h]
  rw [pathAt, stepsTo, hstep]
  cases (Value.list items).children[place]? <;> rfl

theorem sharesLine_leafList (h : items.any Value.isContainer = false) (first second : Nat) :
    sharesLine (.list items) [first] [second] = true := by
  simp [sharesLine, leafListOf?, isLeafList, h]

/-- The texts that are kept of a list without lists and records are those at its kept addresses. -/
theorem keptTexts_leafList (h : items.any Value.isContainer = false) :
    keptTexts policy path items =
      (keptAddresses policy path (.list items)).filterMap (textAt? (.list items)) := by
  conv_lhs => rw [← List.zipIdx_map_fst 0 items]
  rw [keptAddresses, leafAddresses_leafList h, keptTexts, List.filterMap_map, List.filter_map,
    List.filterMap_map, List.filterMap_filter]
  apply List.filterMap_congr
  intro item hitem
  have hat : (Value.list items).at? [item.2] = some item.1 :=
    Value.at?_cons (List.mem_zipIdx_iff_getElem?.1 hitem) []
  have hkeeps : keepsAt policy path (.list items) [item.2] = policy.keeps path item.1 := by
    rw [keepsAt, hat, pathAt_leafList path h, Option.any_some]
  simp only [Function.comp_apply, hkeeps, textAt?, hat]
  cases item.1 <;> rfl

theorem exists_place_of_kept (h : items.any Value.isContainer = false) (address : Address)
    (haddress : address ∈ keptAddresses policy path (.list items)) : ∃ place, address = [place] := by
  have hmem := (List.mem_filter.1 haddress).1
  rw [leafAddresses_leafList h] at hmem
  obtain ⟨item, -, rfl⟩ := List.mem_map.1 hmem
  exact ⟨item.2, rfl⟩

/-- Only texts are kept. -/
theorem exists_text_of_kept (value : Value) (address : Address)
    (h : address ∈ keptAddresses policy path value) : ∃ t, textAt? value address = some t := by
  obtain ⟨leaf, hleaf, hkeeps⟩ := (Option.any_eq_true _ _).1 (List.mem_filter.1 h).2
  cases leaf with
  | text t => exact ⟨t, by rw [textAt?, hleaf]⟩
  | _ => cases hkeeps

/-- The leaves of a list without lists and records are all on one line. -/
theorem listedLines_leafList (h : items.any Value.isContainer = false) :
    listedLines policy path (.list items) = leafListLines policy path items := by
  rw [listedLines, leafListLines, keptTexts_leafList policy path h]
  have hplaces := exists_place_of_kept policy path h
  have htexts := exists_text_of_kept policy path (.list items)
  generalize keptAddresses policy path (.list items) = found at hplaces htexts
  cases found with
  | nil => rfl
  | cons first others =>
    -- There is one group, and its path is that of the list.
    obtain ⟨t, ht⟩ := htexts first List.mem_cons_self
    have hchain : (first :: others).IsChain fun a b => sharesLine (.list items) a b = true := by
      apply List.Pairwise.isChain
      apply List.pairwise_of_forall_mem_list
      intro a ha b hb
      obtain ⟨_, rfl⟩ := hplaces a ha
      obtain ⟨_, rfl⟩ := hplaces b hb
      exact sharesLine_leafList h _ _
    have hpath : pathAt path (.list items) first = path := by
      obtain ⟨place, rfl⟩ := hplaces first List.mem_cons_self
      exact pathAt_leafList path h place
    rw [List.splitBy_of_isChain (List.cons_ne_nil first others) hchain, List.map_singleton, lineAt,
      List.headD_cons, hpath, List.filterMap_cons_some ht]
    rfl

end LeafLists

theorem listedLines_leaf (policy : Policy) (path : Text) (leaf : Value)
    (h : leaf.isContainer = false) : listedLines policy path leaf = lines policy path leaf := by
  have hkept : keptAddresses policy path leaf = if policy.keeps path leaf then [[]] else [] := by
    have hkeeps : keepsAt policy path leaf [] = policy.keeps path leaf := rfl
    rw [keptAddresses, Value.leafAddresses_leaf leaf h, List.filter_cons, hkeeps]
    rfl
  rw [listedLines, hkept]
  cases leaf with
  | text t =>
    have hkeeps : policy.keeps path (.text t) = policy.keepsText path t := rfl
    have hline : lineAt path (.text t) [[]] = line path t := by
      simp [lineAt, textAt?, pathAt, stepsTo, pathTo, Text.joined]
    rw [hkeeps, lines]
    split
    · exact congrArg (fun line => [line]) hline
    · rfl
  | list items => cases h
  | record fields => cases h
  | _ => rfl

/-- The lines of a value are those of its leaves that the policy keeps. -/
theorem lines_eq_listedLines (policy : Policy) (path : Text) (value : Value) :
    lines policy path value = listedLines policy path value := by
  induction value using Value.inductChildren generalizing path with
  | leaf value h => exact (listedLines_leaf policy path value h).symm
  | container value h ih =>
    -- The children of a leaf list share its path, all others have one of their own.
    by_cases hvalue : isLeafList value = true
    · cases value with
      | list items =>
        have hnone : items.any Value.isContainer = false := by simpa [isLeafList] using hvalue
        rw [lines, hnone, listedLines_leafList policy path hnone]
        rfl
      | _ => cases hvalue
    · rw [Bool.not_eq_true] at hvalue
      rw [lines_branch policy path value h hvalue, listedLines_branch policy path value h hvalue]
      apply List.flatMap_congr
      intro child hchild
      exact ih child.1 (List.mem_of_getElem? (List.mem_zipIdx_iff_getElem?.1 hchild)) _

/-- All leaves are listed, in the order of the document and each of them once. A value gives the lines
of those leaves that the policy keeps, where the leaves of a list without lists and records share a
line, and no other line. -/
theorem lines_enumerate (policy : Policy) (path : Text) (value : Value) :
    (∀ address, address ∈ value.leafAddresses ↔
      ∃ leaf, value.at? address = some leaf ∧ leaf.isContainer = false) ∧
    value.leafAddresses.Pairwise (· < ·) ∧
    lines policy path value =
      ((value.leafAddresses.filter (keepsAt policy path value)).splitBy (sharesLine value)).map
        (lineAt path value) :=
  ⟨value.mem_leafAddresses, value.pairwise_leafAddresses, lines_eq_listedLines policy path value⟩

example :
    let value : Value := .record [("tags".toList, .list [.text ['a'], .int 1, .text ['b']]),
      ("by".toList, .list [.list [.text ['c']], .null, .text ['d']])]
    value.leafAddresses = [[0, 0], [0, 1], [0, 2], [1, 0, 0], [1, 1], [1, 2]] ∧
    keptAddresses .standard [] value = [[0, 0], [0, 2], [1, 0, 0], [1, 2]] ∧
    listedLines .standard [] value =
      ["tags: a, b".toList, "by[0]: c".toList, "by[2]: d".toList] := by
  refine ⟨?_, ?_, ?_⟩
  · cbv
  · cbv
  · cbv

end Quarry.Flatten
