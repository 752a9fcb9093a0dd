import Mathlib
import Quarry.Proofs.Flatten.Spots
import Quarry.Proofs.Policy.Lists

/-! A policy that keeps more keys gives more lines, and leaves those it gave before as they are. -/
namespace Quarry

namespace Policy

/-- The policy of which every key is kept. -/
def lenient : Policy := ⟨[], []⟩

end Policy

namespace Flatten

open Json (Value)
open Policy (keyName)

theorem keptTexts_eq_lenient (policy : Policy) (path : Text) (leaves : List Value) :
    keptTexts policy path leaves =
      if policy.keepsKey (keyName path) then keptTexts .lenient path leaves else [] := by
  have hlenient (key : Text) : Policy.lenient.keepsKey key = true := rfl
  -- The key is asked for again with every item, but the answer is one.
  by_cases hkey : policy.keepsKey (keyName path) = true
  · simp [keptTexts, Policy.keepsText, hkey, hlenient]
  · rw [if_neg hkey, keptTexts, List.filterMap_eq_nil_iff]
    rintro (_ | _) _ <;> simp [Policy.keepsText, hkey]

/-- The leaves at one spot share a key. So the policy keeps the line of a spot, or drops all of it. -/
theorem line?_eq_lenient (policy : Policy) (path : Text) (spot : Spot Value) :
    spot.line? policy path =
      if policy.keepsKey (keyName (pathTo path spot.steps)) then spot.line? .lenient path
      else none := by
  simp only [Spot.line?, Spot.kept?, keptTexts_eq_lenient policy]
  by_cases hkey : policy.keepsKey (keyName (pathTo path spot.steps)) = true
  · simp only [hkey, if_true]
  · simp [hkey]

theorem lines_eq_filter (policy : Policy) (path : Text) (value : Value) :
    lines policy path value =
      ((spots value).filter fun spot => policy.keepsKey (keyName (pathTo path spot.steps))).filterMap
        (Spot.line? .lenient path) := by
  rw [lines_eq_spots, List.filterMap_filter]
  apply List.filterMap_congr
  intro spot _
  exact line?_eq_lenient policy path spot

theorem lines_sublist (policy wider : Policy)
    (h : ∀ key, policy.keepsKey key = true → wider.keepsKey key = true) (path : Text)
    (value : Value) : (lines policy path value).Sublist (lines wider path value) := by
  rw [lines_eq_filter, lines_eq_filter]
  -- Both policies drop spots of the same lines, and the wider one drops fewer.
  apply List.Sublist.filterMap
  exact List.monotone_filter_right _ fun spot hkept => h _ hkept

/-- With more allowed keys and fewer denied patterns a value gives the same lines and perhaps others
between them. A leaf under an allowed key is judged by its value alone. -/
theorem lines_sublist_of_lists (allow allow' deny deny' : List Text) (hallow : allow ⊆ allow')
    (hdeny : deny' ⊆ deny) (policy : Policy) (h : Policy.standardWith allow deny = .ok policy) :
    ∃ wider, Policy.standardWith allow' deny' = .ok wider ∧
      (∀ value path, (lines policy path value).Sublist (lines wider path value)) ∧
      ∀ path value,
        Policy.normalize (keyName path) ∈ Policy.proseKeys ++ allow.map Policy.normalize →
        (policy.keeps path value = true ↔ ∃ t, value = .text t ∧ Text.isBlank t = false) := by
  obtain ⟨patterns, hpatterns, rfl⟩ := (Policy.standardWith_eq_ok allow deny policy).1 h
  have hread (text : Text) (htext : text ∈ deny') :
      ∃ pattern ∈ patterns, Pattern.read text = .ok pattern :=
    Policy.exists_of_mapM_read deny patterns hpatterns text (hdeny htext)
  obtain ⟨fewer, hfewer, hsubset⟩ := Policy.exists_mapM_read deny' patterns hread
  refine ⟨⟨Policy.proseKeys ++ allow'.map Policy.normalize, Policy.standardDenied ++ fewer⟩,
    (Policy.standardWith_eq_ok ..).2 ⟨fewer, hfewer, rfl⟩, ?_, ?_⟩
  · intro value path
    apply lines_sublist
    apply Policy.keepsKey_mono
    · exact List.append_subset.2 ⟨List.subset_append_left .., fun key hkey =>
        List.mem_append_right _ (List.map_subset _ hallow hkey)⟩
    · exact List.append_subset.2 ⟨List.subset_append_left .., fun pattern hpattern =>
        List.mem_append_right _ (hsubset hpattern)⟩
  · intro path value hkey
    exact Policy.keeps_of_allowed _ path hkey value

/-- Where the identifiers of sessions are allowed, and secrets are no longer denied. -/
theorem lines_sublist_of_lists_session :
    let allow : List Text := ["sceneId".toList]
    let deny : List Text := ["^secret".toList, "scene".toList]
    let secret : Pattern := .sequence (.start :: "secret".toList.map fun c => .one (.only c))
    let policy : Policy := ⟨Policy.proseKeys ++ ["scene_id".toList],
      Policy.standardDenied ++ [secret, .literal "scene".toList]⟩
    let value : Value := .record [("scene-id".toList, .text ['s']), ("secrets".toList,
      .list [.text ['x'], .text ['y']]), ("session_id".toList, .text ['n'])]
    Policy.standardWith allow deny = .ok policy ∧
    ∃ wider, Policy.standardWith ("session_id".toList :: allow) ["scene".toList] = .ok wider ∧
      (lines policy [] value).Sublist (lines wider [] value) ∧
      policy.keeps "scene-id".toList (.text ['s']) = true := by
  intro allow deny secret policy value
  have hpolicy : Policy.standardWith allow deny = .ok policy := by cbv
  obtain ⟨wider, hwider, hlines, hkeeps⟩ := lines_sublist_of_lists allow
    ("session_id".toList :: allow) deny ["scene".toList] (List.subset_cons_self ..)
    (List.subset_cons_self ..) policy hpolicy
  have hkey : Policy.normalize (keyName "scene-id".toList) = "scene_id".toList := by cbv
  have hallowed : Policy.normalize (keyName "scene-id".toList) ∈
      Policy.proseKeys ++ allow.map Policy.normalize := by
    rw [hkey]
    apply List.mem_append_right
    have hnormal : allow.map Policy.normalize = ["scene_id".toList] := by cbv
    rw [hnormal]
    exact List.mem_singleton_self _
  exact ⟨hpolicy, wider, hwider, hlines value [],
    (hkeeps _ _ hallowed).2 ⟨['s'], rfl, by decide⟩⟩

end Flatten
end Quarry
