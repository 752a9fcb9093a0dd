import Quarry.Proofs.Disk.Sound

/-! Following links. Where it ends there is no link on the way, a location without links is where
following it ends, and nothing but the links of a file system decides where that is. -/
namespace Quarry.Disk

/-- No segment that is still to be followed holds a slash. -/
def NoSlash (todo : List Todo) : Prop := ∀ text, Todo.segment text ∈ todo → '/' ∉ text

theorem segments_noSlash (target : Text) : NoSlash ((Path.segments target).map .segment) := by
  intro text h
  obtain ⟨piece, hpiece, hp⟩ := List.mem_map.1 h
  obtain rfl : piece = text := by simpa using hp
  exact (Text.mem_of_mem_cut '/' target piece hpiece).1

theorem names_noSlash (path : Path) (h : path.Spelled) :
    NoSlash (path.names.map .segment) := by
  intro text ht
  obtain ⟨name, hname, hn⟩ := List.mem_map.1 ht
  obtain rfl : name = text := by simpa using hn
  exact (h name hname).noSlash

theorem noSlash_tail (first : Todo) (todo : List Todo) (h : NoSlash (first :: todo)) :
    NoSlash todo :=
  fun text ht => h text (List.mem_cons_of_mem _ ht)

theorem noSlash_target (target : Text) (link : Location) (first : Todo) (todo : List Todo)
    (h : NoSlash (first :: todo)) :
    NoSlash ((Path.segments target).map .segment ++ .followed link :: todo) := by
  intro text ht
  rcases List.mem_append.1 ht with ht | ht
  · exact segments_noSlash target text ht
  · rcases List.mem_cons.1 ht with ht | ht
    · cases ht
    · exact h text (List.mem_cons_of_mem _ ht)

theorem isName_of_segment (text : Text) (todo : List Todo) (h : NoSlash (.segment text :: todo))
    (hidle : ¬Path.isIdle text = true) (hup : ¬text = Path.up)
    (hnul : ¬text.contains (Char.ofNat 0) = true) : IsName text :=
  ⟨⟨by simpa using hidle, h text (by simp)⟩, hup, by simpa using hnul⟩

section

variable {disk : Disk} {fresh : List Location} {known : List (Location × Location)}
  {here : Location} {text : Text} {todo : List Todo}

theorem follow_name (hidle : ¬Path.isIdle text = true) (hup : ¬text = Path.up)
    (hnul : ¬text.contains (Char.ofNat 0) = true) (hlink : disk.link? (here ++ [text]) = none) :
    disk.follow fresh known here (.segment text :: todo) =
      disk.follow fresh known (here ++ [text]) todo := by
  rw [follow, if_neg hidle, if_neg hup, if_neg hnul]
  simp only [hlink]

theorem follow_known (hidle : ¬Path.isIdle text = true) (hup : ¬text = Path.up)
    (hnul : ¬text.contains (Char.ofNat 0) = true) {target : Text}
    (hlink : disk.link? (here ++ [text]) = some target) {ending : Location}
    (hmet : known.lookup (here ++ [text]) = some ending) :
    disk.follow fresh known here (.segment text :: todo) =
      disk.follow fresh known ending todo := by
  rw [follow, if_neg hidle, if_neg hup, if_neg hnul]
  simp only [hlink, hmet]

theorem follow_link (hidle : ¬Path.isIdle text = true) (hup : ¬text = Path.up)
    (hnul : ¬text.contains (Char.ofNat 0) = true) {target : Text}
    (hlink : disk.link? (here ++ [text]) = some target)
    (hmet : known.lookup (here ++ [text]) = none)
    (hfresh : fresh.contains (here ++ [text]) = true) :
    disk.follow fresh known here (.segment text :: todo) =
      disk.follow (without (here ++ [text]) fresh) known (linkOrigin target here)
        ((Path.segments target).map .segment ++ .followed (here ++ [text]) :: todo) := by
  rw [follow, if_neg hidle, if_neg hup, if_neg hnul]
  simp only [hlink, hmet, hfresh, if_true]

theorem follow_circle (hidle : ¬Path.isIdle text = true) (hup : ¬text = Path.up)
    (hnul : ¬text.contains (Char.ofNat 0) = true) {target : Text}
    (hlink : disk.link? (here ++ [text]) = some target)
    (hmet : known.lookup (here ++ [text]) = none)
    (hfresh : ¬fresh.contains (here ++ [text]) = true) :
    disk.follow fresh known here (.segment text :: todo) =
      .circle (leftOver (locationText (here ++ [text])) [] todo) := by
  rw [follow, if_neg hidle, if_neg hup, if_neg hnul]
  simp only [hlink, hmet, if_neg hfresh]

end

/-- The location where following ends is reached without links, as long as the one where it
starts and the ends of the links followed so far are. -/
theorem follow_plain (disk : Disk) (fresh : List Location) (known : List (Location × Location))
    (here : Location) (todo : List Todo) (ending : Location)
    (hhere : disk.Plain here) (hknown : ∀ entry ∈ known, disk.Plain entry.2)
    (htodo : NoSlash todo) (h : disk.follow fresh known here todo = .location ending) :
    disk.Plain ending := by
  induction fresh, known, here, todo using follow.induct disk with
  | case1 fresh known here =>
    rw [follow] at h
    obtain rfl : here = ending := by simpa using h
    exact hhere
  | case2 fresh known here link todo ih =>
    rw [follow] at h
    refine ih hhere ?_ (noSlash_tail _ todo htodo) h
    intro entry hentry
    rcases List.mem_cons.1 hentry with rfl | hentry
    · exact hhere
    · exact hknown entry hentry
  | case3 fresh known here text todo hidle ih =>
    rw [follow, if_pos hidle] at h
    exact ih hhere hknown (noSlash_tail _ todo htodo) h
  | case4 fresh known here todo hidle ih =>
    rw [follow, if_neg hidle, if_pos rfl] at h
    exact ih (plain_above disk _ here (List.dropLast_prefix here) hhere) hknown
      (noSlash_tail _ todo htodo) h
  | case5 fresh known here text todo hidle hup hnul =>
    rw [follow, if_neg hidle, if_neg hup, if_pos hnul] at h
    cases h
  | case6 fresh known here text todo hidle hup hnul next hlink ih =>
    rw [follow_name hidle hup hnul hlink] at h
    have hname := isName_of_segment text todo htodo hidle hup hnul
    exact ih (plain_snoc disk here text hhere hname hlink) hknown (noSlash_tail _ todo htodo) h
  | case7 fresh known here text todo hidle hup hnul next target hlink ending' hmet ih =>
    rw [follow_known hidle hup hnul hlink hmet] at h
    obtain ⟨before, after, hk, -⟩ := List.lookup_eq_some_iff.1 hmet
    exact ih (hknown (next, ending') (by simp [hk])) hknown (noSlash_tail _ todo htodo) h
  | case8 fresh known here text todo hidle hup hnul next target hlink hmet hfresh ih =>
    rw [follow_link hidle hup hnul hlink hmet hfresh] at h
    exact ih (linkOrigin_plain disk target here hhere) hknown
      (noSlash_target target next _ todo htodo) h
  | case9 fresh known here text todo hidle hup hnul next target hlink hmet hfresh =>
    rw [follow_circle hidle hup hnul hlink hmet hfresh] at h
    cases h

/-- Along names without links, following goes from name to name. -/
theorem follow_of_plain (disk : Disk) (fresh : List Location)
    (known : List (Location × Location)) (here : Location) (names : List Text)
    (h : disk.Plain (here ++ names)) :
    disk.follow fresh known here (names.map .segment) = .location (here ++ names) := by
  induction names generalizing here with
  | nil => rw [List.map_nil, follow, List.append_nil]
  | cons name others ih =>
    have hname : IsName name := h.names name (by simp)
    have hlink : disk.link? (here ++ [name]) = none := h.linkFree _ (by simp)
    rw [List.map_cons, follow_name (by simp [hname.segment.leads]) hname.notUp
      (by simpa using hname.noNul) hlink]
    have hnext := ih (here ++ [name]) (by simpa using h)
    simpa using hnext

/-- Two file systems with the same links lead to the same place. Of the links not met so far only
those matter that exist. -/
theorem follow_congr (first second : Disk) (hlinks : ∀ x, first.link? x = second.link? x)
    (fresh others : List Location) (known : List (Location × Location)) (here : Location)
    (todo : List Todo) (hfresh : ∀ x, first.link? x ≠ none → (x ∈ fresh ↔ x ∈ others)) :
    first.follow fresh known here todo = second.follow others known here todo := by
  -- The lists of links not met so far shrink together, so the other one varies in the induction.
  induction fresh, known, here, todo using follow.induct first generalizing others with
  | case1 fresh known here => rw [follow, follow]
  | case2 fresh known here link todo ih => rw [follow, follow, ih others hfresh]
  | case3 fresh known here text todo hidle ih =>
    rw [follow, follow, if_pos hidle, if_pos hidle, ih others hfresh]
  | case4 fresh known here todo hidle ih =>
    rw [follow, follow, if_neg hidle, if_neg hidle, if_pos rfl, if_pos rfl, ih others hfresh]
  | case5 fresh known here text todo hidle hup hnul =>
    rw [follow, follow, if_neg hidle, if_neg hidle, if_neg hup, if_neg hup, if_pos hnul,
      if_pos hnul]
  | case6 fresh known here text todo hidle hup hnul next hlink ih =>
    have hlink' : second.link? next = none := hlinks next ▸ hlink
    rw [follow_name hidle hup hnul hlink, follow_name hidle hup hnul hlink']
    exact ih others hfresh
  | case7 fresh known here text todo hidle hup hnul next target hlink ending hmet ih =>
    have hlink' : second.link? next = some target := hlinks next ▸ hlink
    rw [follow_known hidle hup hnul hlink hmet, follow_known hidle hup hnul hlink' hmet]
    exact ih others hfresh
  | case8 fresh known here text todo hidle hup hnul next target hlink hmet hmem ih =>
    have hlink' : second.link? next = some target := hlinks next ▸ hlink
    have hiff := hfresh next (by simp [hlink])
    have hmem' : others.contains next = true := by simpa using hiff.1 (by simpa using hmem)
    rw [follow_link hidle hup hnul hlink hmet hmem, follow_link hidle hup hnul hlink' hmet hmem']
    apply ih
    intro x hx
    simp [without, hfresh x hx, next]
  | case9 fresh known here text todo hidle hup hnul next target hlink hmet hmem =>
    have hlink' : second.link? next = some target := hlinks next ▸ hlink
    have hiff := hfresh next (by simp [hlink])
    have hmem' : ¬others.contains next = true := by
      intro h
      exact hmem (by simpa using hiff.2 (by simpa using h))
    rw [follow_circle hidle hup hnul hlink hmet hmem,
      follow_circle hidle hup hnul hlink' hmet hmem']

end Quarry.Disk
