import Quarry.Path
import Quarry.Proofs.Text.Pieces
import Quarry.Text.Blank

/-! A path whose names could stand between two slashes is read back from its text. -/
namespace Quarry

namespace Path

/-- What reading a text leaves of a segment: no slash is in it, and it leads somewhere. -/
structure IsSegment (name : Text) : Prop where
  leads : isIdle name = false
  noSlash : '/' ∉ name

instance (name : Text) : Decidable (IsSegment name) :=
  decidable_of_iff (isIdle name = false ∧ '/' ∉ name)
    ⟨fun h => ⟨h.1, h.2⟩, fun h => ⟨h.leads, h.noSlash⟩⟩

/-- Every name of the path could be a segment of a text. -/
def Spelled (path : Path) : Prop := ∀ name ∈ path.names, IsSegment name

theorem isSegment_ne_nil (name : Text) (h : IsSegment name) : name ≠ [] := by
  rintro rfl
  exact absurd h.leads (by decide)

theorem ofText_spelled (text : Text) : (ofText text).Spelled := by
  intro name hname
  obtain ⟨hcut, hidle⟩ := List.mem_filter.1 hname
  exact ⟨by simpa using hidle, (Text.mem_of_mem_cut '/' text name hcut).1⟩

/-- The names of a path that is read hold only characters of the text. -/
theorem mem_of_mem_ofText (text name : Text) (c : Char) (hname : name ∈ (ofText text).names)
    (hc : c ∈ name) : c ∈ text :=
  (Text.mem_of_mem_cut '/' text name (List.mem_filter.1 hname).1).2 c hc

theorem join_spelled (base path : Path) (hb : base.Spelled) (hp : path.Spelled) :
    (base.join path).Spelled := by
  unfold join
  split
  · exact hp
  · intro name hname
    rcases List.mem_append.1 hname with h | h
    · exact hb name h
    · exact hp name h

theorem head_joined (name : Text) (names : List Text) (hn : name ≠ []) :
    (Text.joined ['/'] (name :: names)).head? = name.head? := by
  obtain ⟨c, rest, rfl⟩ := List.exists_cons_of_ne_nil hn
  cases names with
  | nil => simp [Text.joined]
  | cons next others => simp [Text.joined_cons]

theorem rootOf_text (root : Root) (text : Text) (h : text.head? ≠ some '/') :
    rootOf (root.text ++ text) = root := by
  cases text with
  | nil => cases root <;> rfl
  | cons c rest =>
    have hc : c ≠ '/' := by simpa using h
    cases root <;> simp [Root.text, rootOf, hc]

theorem rootOf_ne_relative (text : Text) (h : text.head? = some '/') :
    rootOf text ≠ .relative := by
  cases text with
  | nil => simp at h
  | cons c rest =>
    obtain rfl : c = '/' := by simpa using h
    unfold rootOf
    split <;> simp_all

theorem filter_segments (names : List Text) (h : ∀ name ∈ names, IsSegment name) :
    (segments (Text.joined ['/'] names)).filter (fun segment => !isIdle segment) = names := by
  by_cases hn : names = []
  · subst hn
    decide
  · rw [segments, Text.cut_joined '/' names (fun name hname => (h name hname).noSlash) hn]
    exact List.filter_eq_self.2 fun name hname => by simp [(h name hname).leads]

/-- What the slashes of a root cut off are no names. -/
theorem filter_segments_root (root : Root) (text : Text) :
    (segments (root.text ++ text)).filter (fun segment => !isIdle segment) =
      (segments text).filter fun segment => !isIdle segment := by
  have hslash (rest : Text) : (segments ('/' :: rest)).filter (fun segment => !isIdle segment) =
      (segments rest).filter fun segment => !isIdle segment := by
    have hcut : segments ('/' :: rest) = [] :: segments rest := by simp [segments, Text.cut]
    rw [hcut, List.filter_cons_of_neg (by decide)]
  cases root with
  | relative => rfl
  | slash => exact hslash text
  | doubleSlash => exact (hslash ('/' :: text)).trans (hslash text)

/-- A path is read back from its text. -/
theorem ofText_text (path : Path) (h : path.Spelled) : ofText path.text = path := by
  obtain ⟨root, names⟩ := path
  by_cases hdot : root = .relative ∧ names = []
  · -- The text of such a path is a dot, which is no name.
    obtain ⟨rfl, rfl⟩ := hdot
    decide
  · have htext : text ⟨root, names⟩ = root.text ++ Text.joined ['/'] names := by
      rw [text, if_neg (by simpa using hdot)]
    have hhead : (Text.joined ['/'] names).head? ≠ some '/' := by
      cases names with
      | nil => simp [Text.joined]
      | cons name others =>
        have hname := h name (by simp)
        rw [head_joined name others (isSegment_ne_nil name hname)]
        intro hslash
        exact hname.noSlash (List.mem_of_mem_head? hslash)
    rw [htext, ofText, rootOf_text root _ hhead, filter_segments_root, filter_segments names h]

/-- The path that a text is read as is read from its own text too. -/
theorem ofText_text_ofText (spelling : Text) : ofText (ofText spelling).text = ofText spelling :=
  ofText_text _ (ofText_spelled spelling)

/-- Where double dots are worked out, names are left that lead somewhere, and not up. -/
theorem lexicalNames_named (segments : List Text) (h : ∀ segment ∈ segments, '/' ∉ segment) :
    ∀ name ∈ lexicalNames segments, IsSegment name ∧ name ≠ up := by
  have hfold (names : List Text) (hnames : ∀ name ∈ names, IsSegment name ∧ name ≠ up) :
      ∀ name ∈ segments.foldl step names, IsSegment name ∧ name ≠ up := by
    induction segments generalizing names with
    | nil => exact hnames
    | cons segment segments ih =>
      refine ih (fun other hother => h other (List.mem_cons_of_mem _ hother)) _ ?_
      unfold step
      split
      · exact hnames
      · rename_i hidle
        split
        · exact fun name hname => hnames name ((List.dropLast_sublist _).mem hname)
        · rename_i hup
          intro name hname
          rcases List.mem_append.1 hname with hname | hname
          · exact hnames name hname
          · obtain rfl := List.mem_singleton.1 hname
            exact ⟨⟨by simpa using hidle, h name List.mem_cons_self⟩, hup⟩
  exact hfold [] (by simp)

/-- A relative path of one name of which nothing can be seen. -/
def IsBlankName (path : Path) : Prop :=
  ∃ name, path = ⟨.relative, [name]⟩ ∧ Text.isBlank name = true

/-- No other path has a blank text: slashes and dots can be seen. -/
theorem isBlank_text_iff (path : Path) : Text.isBlank path.text = true ↔ path.IsBlankName := by
  constructor
  · intro h
    have hslash : '/' ∉ path.text := by
      intro hmem
      exact absurd (List.all_eq_true.1 h '/' hmem) (by decide)
    obtain ⟨root, names⟩ := path
    cases root with
    | slash => simp [text, Root.text] at hslash
    | doubleSlash => simp [text, Root.text] at hslash
    | relative =>
      match names with
      | [] => exact absurd h (by decide)
      | [name] => exact ⟨name, rfl, by simpa [text, Root.text, Text.joined] using h⟩
      | name :: next :: others =>
        simp [text, Root.text, Text.joined_cons] at hslash
  · rintro ⟨name, rfl, hblank⟩
    simpa [text, Root.text, Text.joined] using hblank

end Path
end Quarry
