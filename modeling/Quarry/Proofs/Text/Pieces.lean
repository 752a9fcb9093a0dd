import Quarry.Text.Basic

/-! Cutting a text at a separator and joining the pieces undo each other. -/
namespace Quarry.Text

theorem cut_eq_splitOn (separator : Char) (text : Text) :
    cut separator text = text.splitOn separator := by
  induction text with
  | nil => rfl
  | cons c rest ih =>
    have hcons : cut separator (c :: rest) = if c = separator then [] :: cut separator rest
        else (cut separator rest).modifyHead (List.cons c) := by
      have hn : cut separator rest ≠ [] := ih ▸ List.splitOn_ne_nil separator rest
      simp only [cut, List.foldr_cons] at hn ⊢
      split
      · rfl
      · split
        · rename_i hnil
          exact absurd hnil hn
        · rename_i hpieces
          simp only [hpieces, List.modifyHead_cons]
    rw [hcons, ih, List.splitOn_cons_eq_if_modifyHead]
    simp only [beq_iff_eq]

theorem cut_ne_nil (separator : Char) (text : Text) : cut separator text ≠ [] := by
  rw [cut_eq_splitOn]
  exact List.splitOn_ne_nil separator text

theorem joined_cut (separator : Char) (text : Text) :
    joined [separator] (cut separator text) = text := by
  rw [joined, cut_eq_splitOn]
  exact List.intercalate_splitOn separator

theorem cut_joined (separator : Char) (pieces : List Text)
    (hpieces : ∀ piece ∈ pieces, separator ∉ piece) (hn : pieces ≠ []) :
    cut separator (joined [separator] pieces) = pieces := by
  rw [joined, cut_eq_splitOn]
  exact List.splitOn_intercalate separator hpieces hn

theorem cut_append (separator : Char) (before after : Text) :
    cut separator (before ++ separator :: after) =
      cut separator before ++ cut separator after := by
  simp only [cut_eq_splitOn]
  exact List.splitOn_append_cons_self before after

theorem cut_eq_singleton (separator : Char) (text : Text) (h : separator ∉ text) :
    cut separator text = [text] := by
  rw [cut_eq_splitOn]
  exact List.splitOn_eq_singleton h

theorem joined_cons (separator piece : Text) (pieces : List Text) (hn : pieces ≠ []) :
    joined separator (piece :: pieces) = piece ++ separator ++ joined separator pieces :=
  List.intercalate_cons_of_ne_nil hn

theorem joined_append (separator : Text) (before after : List Text) (hbefore : before ≠ [])
    (hafter : after ≠ []) : joined separator (before ++ after) =
      joined separator before ++ separator ++ joined separator after := by
  induction before with
  | nil => exact absurd rfl hbefore
  | cons piece pieces ih =>
    cases pieces with
    | nil =>
      have hone : joined separator [piece] = piece := by simp [joined]
      rw [hone]
      exact joined_cons separator piece after hafter
    | cons next pieces =>
      rw [List.cons_append, joined_cons _ _ _ (by simp), joined_cons _ _ _ (by simp),
        ih (by simp)]
      simp only [List.append_assoc]

/-- Joining groups of pieces, of which the empty ones do not count, joins the pieces. -/
theorem joined_flatten (separator : Text) (groups : List (List Text)) :
    joined separator ((groups.filter fun group => !group.isEmpty).map (joined separator)) =
      joined separator groups.flatten := by
  induction groups with
  | nil => rfl
  | cons group groups ih =>
    cases group with
    | nil => simpa using ih
    | cons piece pieces =>
      have hfilter : ((piece :: pieces) :: groups).filter (fun group => !group.isEmpty) =
          (piece :: pieces) :: groups.filter fun group => !group.isEmpty := rfl
      rw [hfilter, List.map_cons, List.flatten_cons]
      by_cases hrest : groups.flatten = []
      · have hnone : (groups.filter fun group => !group.isEmpty) = [] := by
          rw [List.filter_eq_nil_iff]
          intro group hgroup
          simp [List.flatten_eq_nil_iff.1 hrest group hgroup]
        rw [hrest, hnone, List.append_nil]
        simp [joined]
      · have hsome : ((groups.filter fun group => !group.isEmpty).map (joined separator)) ≠ [] := by
          intro hnil
          apply hrest
          rw [List.map_eq_nil_iff, List.filter_eq_nil_iff] at hnil
          rw [List.flatten_eq_nil_iff]
          intro group hgroup
          simpa using hnil group hgroup
        rw [joined_cons _ _ _ hsome, ih, joined_append _ _ _ (by simp) hrest]

/-- A piece is made of the characters of the text, without the separator. -/
theorem mem_of_mem_cut (separator : Char) (text piece : Text) (h : piece ∈ cut separator text) :
    separator ∉ piece ∧ ∀ c ∈ piece, c ∈ text := by
  induction text generalizing piece with
  | nil =>
    have hp : piece = [] := by simpa [cut] using h
    simp [hp]
  | cons c rest ih =>
    rw [cut_eq_splitOn, List.splitOn_cons_eq_if_modifyHead, ← cut_eq_splitOn] at h
    by_cases hc : c = separator
    · simp only [hc, beq_self_eq_true, if_true, List.mem_cons] at h
      rcases h with rfl | h
      · simp
      · exact ⟨(ih piece h).1, fun d hd => List.mem_cons_of_mem _ ((ih piece h).2 d hd)⟩
    · obtain ⟨first, others, hrest⟩ := List.exists_cons_of_ne_nil (cut_ne_nil separator rest)
      simp only [beq_iff_eq, hc, if_false, hrest, List.modifyHead_cons, List.mem_cons] at h
      rcases h with rfl | h
      · obtain ⟨hs, hm⟩ := ih first (by simp [hrest])
        refine ⟨by simp [Ne.symm hc, hs], fun d hd => ?_⟩
        rcases List.mem_cons.1 hd with rfl | hd
        · simp
        · exact List.mem_cons_of_mem _ (hm d hd)
      · obtain ⟨hs, hm⟩ := ih piece (by simp [hrest, h])
        exact ⟨hs, fun d hd => List.mem_cons_of_mem _ (hm d hd)⟩

/-- Of a text that goes on, all pieces but the last one are pieces of the whole. -/
theorem dropLast_cut_prefix (separator : Char) (before after : Text) :
    (cut separator before).dropLast <+: cut separator (before ++ after) := by
  have hcut := List.dropLast_concat_getLast (cut_ne_nil separator before)
  generalize (cut separator before).dropLast = front at hcut ⊢
  generalize (cut separator before).getLast (cut_ne_nil separator before) = last at hcut
  by_cases hfront : front = []
  · rw [hfront]
    exact List.nil_prefix
  have hpieces (piece : Text) (hpiece : piece ∈ front) : separator ∉ piece :=
    (mem_of_mem_cut separator before piece (by simp [← hcut, hpiece])).1
  have hbefore : before = joined [separator] front ++ separator :: last := by
    rw [← joined_cut separator before, ← hcut, joined_append _ _ _ hfront (by simp)]
    simp [joined]
  rw [hbefore, List.append_assoc, List.cons_append, cut_append,
    cut_joined separator front hpieces hfront]
  exact List.prefix_append _ _

end Quarry.Text
