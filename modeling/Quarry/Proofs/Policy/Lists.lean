import Quarry.Policy

/-! Policies as they are made from lists of allowed keys and of denied patterns. A longer list of
keys and a shorter one of patterns keep more. -/
namespace Quarry.Policy

theorem exists_of_mapM_read (written : List Text) (patterns : List Pattern)
    (h : written.mapM Pattern.read = .ok patterns) (text : Text) (htext : text ∈ written) :
    ∃ pattern ∈ patterns, Pattern.read text = .ok pattern := by
  induction written generalizing patterns with
  | nil => cases htext
  | cons first written ih =>
    rw [List.mapM_cons] at h
    cases hfirst : Pattern.read first with
    | error error =>
      rw [hfirst] at h
      cases h
    | ok pattern =>
      cases hrest : written.mapM Pattern.read with
      | error error =>
        rw [hfirst, hrest] at h
        cases h
      | ok rest =>
        rw [hfirst, hrest] at h
        obtain rfl : pattern :: rest = patterns := Except.ok.inj h
        rcases List.mem_cons.1 htext with rfl | hmem
        · exact ⟨pattern, List.mem_cons_self, hfirst⟩
        · obtain ⟨found, hfound, hread⟩ := ih rest hrest hmem
          exact ⟨found, List.mem_cons_of_mem _ hfound, hread⟩

/-- Patterns of which each can be read can be read together. -/
theorem exists_mapM_read (written : List Text) (patterns : List Pattern)
    (h : ∀ text ∈ written, ∃ pattern ∈ patterns, Pattern.read text = .ok pattern) :
    ∃ found, written.mapM Pattern.read = .ok found ∧ found ⊆ patterns := by
  induction written with
  | nil => exact ⟨[], rfl, List.nil_subset patterns⟩
  | cons text written ih =>
    obtain ⟨⟨first, hfirst, hread⟩, hothers⟩ := List.forall_mem_cons.1 h
    obtain ⟨rest, hrest, hsubset⟩ := ih hothers
    refine ⟨first :: rest, ?_, List.cons_subset.2 ⟨hfirst, hsubset⟩⟩
    rw [List.mapM_cons, hread, hrest]
    rfl

theorem standardWith_eq_ok (allow deny : List Text) (policy : Policy) :
    standardWith allow deny = .ok policy ↔ ∃ patterns, deny.mapM Pattern.read = .ok patterns ∧
      policy = ⟨proseKeys ++ allow.map normalize, standardDenied ++ patterns⟩ := by
  rw [standardWith]
  cases deny.mapM Pattern.read with
  | error error => simp
  | ok patterns => simp [eq_comm]

/-- More allowed keys and fewer patterns keep every key that was kept. -/
theorem keepsKey_mono (policy wider : Policy) (hallowed : policy.allowed ⊆ wider.allowed)
    (hdenied : wider.denied ⊆ policy.denied) (key : Text) (h : policy.keepsKey key = true) :
    wider.keepsKey key = true := by
  simp only [keepsKey, Bool.or_eq_true, List.contains_iff_mem, Bool.not_eq_true',
    List.any_eq_false] at h ⊢
  exact h.imp (fun hmem => hallowed hmem) fun hnone pattern hpattern =>
    hnone pattern (hdenied hpattern)

/-- The allowed keys of a policy are normal forms, those of prose among them. -/
theorem allowed_of_standardWith (allow deny : List Text) (policy : Policy)
    (h : standardWith allow deny = .ok policy) :
    policy.allowed = (proseKeys ++ allow).map normalize := by
  have hprose : proseKeys.map normalize = proseKeys := by decide +kernel
  obtain ⟨patterns, -, rfl⟩ := (standardWith_eq_ok allow deny policy).1 h
  rw [List.map_append, hprose]

/-- An allowed key is not looked at any further. -/
theorem keepsKey_of_allowed (policy : Policy) (key : Text) (h : normalize key ∈ policy.allowed) :
    policy.keepsKey key = true := by
  simp [keepsKey, h]

theorem keeps_of_allowed (policy : Policy) (path : Text)
    (h : normalize (keyName path) ∈ policy.allowed) (value : Json.Value) :
    policy.keeps path value = true ↔ ∃ t, value = .text t ∧ Text.isBlank t = false := by
  have hkey := keepsKey_of_allowed policy (keyName path) h
  cases value with
  | text t => simp [keeps, keepsText, hkey]
  | _ => simp [keeps]

end Quarry.Policy
