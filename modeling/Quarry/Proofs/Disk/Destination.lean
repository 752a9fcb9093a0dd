import Quarry.Proofs.Disk.Follow

/-! The form of a path without links. Where its links run in no circle it is a plain location, and
where they do it is what is left of the path, with its double dots worked out. -/
namespace Quarry.Disk

/-- Where a path leads when all its links are followed. -/
def destination (disk : Disk) (path : Path) : Destination :=
  disk.follow disk.linkLocations [] (disk.origin path) (path.names.map .segment)

theorem mem_linkLocations (disk : Disk) (location : Location) (h : disk.link? location ≠ none) :
    location ∈ disk.linkLocations := by
  obtain ⟨target, htarget⟩ := Option.ne_none_iff_exists'.1 h
  have hnode := (link?_eq_some disk location target).1 htarget
  have hn : location ≠ [] := by
    rintro rfl
    simp [node?_root] at hnode
  exact List.mem_filterMap.2 ⟨_, mem_of_node? disk location _ hnode hn, rfl⟩

theorem destination_congr (first second : Disk) (hlinks : ∀ x, first.link? x = second.link? x)
    (hstart : first.workingDirectory = second.workingDirectory) (path : Path) :
    first.destination path = second.destination path := by
  have horigin : first.origin path = second.origin path := by simp only [origin, hstart]
  rw [destination, destination, ← horigin]
  apply follow_congr first second hlinks
  intro x hx
  exact ⟨fun _ => mem_linkLocations second x (hlinks x ▸ hx),
    fun _ => mem_linkLocations first x hx⟩

theorem destination_plain (disk : Disk) (hd : disk.Sound) (path : Path) (hp : path.Spelled)
    (location : Location) (h : disk.destination path = .location location) :
    disk.Plain location :=
  follow_plain disk _ _ _ _ _ (origin_plain disk hd path) (by simp) (names_noSlash path hp) h

theorem destination_of_plain (disk : Disk) (location : Location) (h : disk.Plain location) :
    disk.destination ⟨.slash, location⟩ = .location location :=
  follow_of_plain disk _ _ [] location h

theorem resolve_eq (disk : Disk) (path : Path) : disk.resolve path =
    match disk.destination path with
    | .nulCharacter => .error .nulCharacter
    | .location location => .ok ⟨.slash, location⟩
    | .circle rest => match disk.locate (lexicalPath rest) with
      | .error .tooManyLinks => .error .circle
      | _ => .ok (lexicalPath rest) := rfl

/-- A path is resolved to a plain location or, in a circle of links, to what is left of it. -/
theorem resolve_cases (disk : Disk) (path resolved : Path) (h : disk.resolve path = .ok resolved) :
    (∃ location, disk.destination path = .location location ∧ resolved = ⟨.slash, location⟩) ∨
      ∃ rest, disk.destination path = .circle rest ∧ resolved = lexicalPath rest := by
  rw [resolve_eq] at h
  split at h
  · cases h
  · rename_i location hlocation
    exact Or.inl ⟨location, hlocation, (Except.ok.inj h).symm⟩
  · rename_i rest hrest
    split at h
    · cases h
    · exact Or.inr ⟨rest, hrest, (Except.ok.inj h).symm⟩

theorem resolve_of_circle (disk : Disk) (path : Path) (rest : Text)
    (hrest : disk.destination path = .circle rest)
    (hlocate : disk.locate (lexicalPath rest) ≠ .error .tooManyLinks) :
    disk.resolve path = .ok (lexicalPath rest) := by
  rw [resolve_eq, hrest]
  dsimp only
  split
  · rename_i hlinks
    exact absurd hlinks hlocate
  · rfl

theorem joinTexts_head (base rest : Text) (h : base.head? = some '/') :
    (joinTexts base rest).head? = some '/' := by
  obtain ⟨others, rfl⟩ : ∃ others, base = '/' :: others := by
    cases base with
    | nil => simp at h
    | cons c others => exact ⟨others, by simpa using h⟩
  unfold joinTexts
  split
  · assumption
  · split <;> rfl

theorem leftOver_head (base : Text) (level : List Text) (todo : List Todo)
    (h : base.head? = some '/') : (leftOver base level todo).head? = some '/' := by
  induction todo generalizing base level with
  | nil => exact joinTexts_head base _ h
  | cons first todo ih =>
    cases first with
    | segment text => exact ih base (text :: level) h
    | followed link => exact ih _ [] (joinTexts_head base _ h)

/-- What is left in a circle of links starts at the root. -/
theorem follow_circle_head (disk : Disk) (fresh : List Location)
    (known : List (Location × Location)) (here : Location) (todo : List Todo) (rest : Text)
    (h : disk.follow fresh known here todo = .circle rest) : rest.head? = some '/' := by
  induction fresh, known, here, todo using follow.induct disk with
  | case1 fresh known here =>
    rw [follow] at h
    cases h
  | case2 fresh known here link todo ih =>
    rw [follow] at h
    exact ih h
  | case3 fresh known here text todo hidle ih =>
    rw [follow, if_pos hidle] at h
    exact ih h
  | case4 fresh known here todo hidle ih =>
    rw [follow, if_neg hidle, if_pos rfl] at h
    exact ih h
  | case5 fresh known here text todo hidle hup hnul =>
    rw [follow, if_neg hidle, if_neg hup, if_pos hnul] at h
    cases h
  | case6 fresh known here text todo hidle hup hnul next hlink ih =>
    rw [follow_name hidle hup hnul hlink] at h
    exact ih h
  | case7 fresh known here text todo hidle hup hnul next target hlink ending hmet ih =>
    rw [follow_known hidle hup hnul hlink hmet] at h
    exact ih h
  | case8 fresh known here text todo hidle hup hnul next target hlink hmet hmem ih =>
    rw [follow_link hidle hup hnul hlink hmet hmem] at h
    exact ih h
  | case9 fresh known here text todo hidle hup hnul next target hlink hmet hmem =>
    rw [follow_circle hidle hup hnul hlink hmet hmem] at h
    obtain rfl : _ = rest := by simpa using h
    exact leftOver_head _ [] todo rfl

/-- Following comes to a null character only where a segment or the target of a link holds one. -/
theorem follow_nul (disk : Disk) (fresh : List Location) (known : List (Location × Location))
    (here : Location) (todo : List Todo)
    (h : disk.follow fresh known here todo = .nulCharacter) :
    (∃ text, Todo.segment text ∈ todo ∧ Char.ofNat 0 ∈ text) ∨
      ∃ location target, disk.link? location = some target ∧ Char.ofNat 0 ∈ target := by
  have hbehind (first : Todo) (todo : List Todo)
      (h : ∃ text, Todo.segment text ∈ todo ∧ Char.ofNat 0 ∈ text) :
      ∃ text, Todo.segment text ∈ first :: todo ∧ Char.ofNat 0 ∈ text := by
    obtain ⟨text, htext, hnul⟩ := h
    exact ⟨text, List.mem_cons_of_mem _ htext, hnul⟩
  induction fresh, known, here, todo using follow.induct disk with
  | case1 fresh known here =>
    rw [follow] at h
    cases h
  | case2 fresh known here link todo ih =>
    rw [follow] at h
    exact (ih h).imp_left (hbehind _ todo)
  | case3 fresh known here text todo hidle ih =>
    rw [follow, if_pos hidle] at h
    exact (ih h).imp_left (hbehind _ todo)
  | case4 fresh known here todo hidle ih =>
    rw [follow, if_neg hidle, if_pos rfl] at h
    exact (ih h).imp_left (hbehind _ todo)
  | case5 fresh known here text todo hidle hup hnul =>
    exact Or.inl ⟨text, by simp, by simpa using hnul⟩
  | case6 fresh known here text todo hidle hup hnul next hlink ih =>
    rw [follow_name hidle hup hnul hlink] at h
    exact (ih h).imp_left (hbehind _ todo)
  | case7 fresh known here text todo hidle hup hnul next target hlink ending hmet ih =>
    rw [follow_known hidle hup hnul hlink hmet] at h
    exact (ih h).imp_left (hbehind _ todo)
  | case8 fresh known here text todo hidle hup hnul next target hlink hmet hmem ih =>
    rw [follow_link hidle hup hnul hlink hmet hmem] at h
    rcases ih h with ⟨name, hname, hnul'⟩ | hlinks
    · rcases List.mem_append.1 hname with htarget | htodo
      -- The segments of a target hold nothing but its characters.
      · obtain ⟨piece, hpiece, hp⟩ := List.mem_map.1 htarget
        obtain rfl : piece = name := by simpa using hp
        exact Or.inr ⟨next, target, hlink, (Text.mem_of_mem_cut '/' target piece hpiece).2 _ hnul'⟩
      · refine Or.inl (hbehind _ todo ⟨name, ?_, hnul'⟩)
        simpa using htodo
    · exact Or.inr hlinks
  | case9 fresh known here text todo hidle hup hnul next target hlink hmet hmem =>
    rw [follow_circle hidle hup hnul hlink hmet hmem] at h
    cases h

theorem lexicalPath_spelled (rest : Text) : (lexicalPath rest).Spelled := Path.ofText_spelled _

theorem lexicalPath_noNul (rest name : Text) (h : name ∈ (lexicalPath rest).names) :
    Char.ofNat 0 ∉ name := by
  intro hnul
  have hc := List.all_eq_true.1 List.all_takeWhile _ (Path.mem_of_mem_ofText _ name _ h hnul)
  simp at hc

/-- Only the last name may be a double dot again, where a null character has cut it short. -/
theorem up_notMem_lexicalPath (rest : Text) : Path.up ∉ (lexicalPath rest).names.dropLast := by
  let whole : Path := ⟨Path.rootOf rest, Path.lexicalNames (Path.segments rest)⟩
  have hnamed := Path.lexicalNames_named (Path.segments rest) fun segment hsegment =>
    (Text.mem_of_mem_cut '/' rest segment hsegment).1
  have hwhole : (Path.ofText whole.text).names = whole.names := by
    rw [Path.ofText_text whole fun name hname => (hnamed name hname).1]
  let kept := whole.text.takeWhile (· != Char.ofNat 0)
  have hpieces : (Path.segments kept).dropLast <+: Path.segments whole.text := by
    have h := Text.dropLast_cut_prefix '/' kept (whole.text.dropWhile (· != Char.ofNat 0))
    rwa [List.takeWhile_append_dropWhile] at h
  have hcut := List.dropLast_concat_getLast (Text.cut_ne_nil '/' kept)
  have hnames : (lexicalPath rest).names =
      (Text.cut '/' kept).filter fun segment => !Path.isIdle segment := rfl
  rw [← hcut] at hnames
  generalize (Text.cut '/' kept).getLast (Text.cut_ne_nil '/' kept) = last at hnames
  intro hup
  rw [hnames, List.filter_append] at hup
  have hfront : Path.up ∈ (Text.cut '/' kept).dropLast.filter fun segment => !Path.isIdle segment := by
    by_cases hlast : Path.isIdle last = true
    · rw [List.filter_cons_of_neg (by simp [hlast]), List.filter_nil, List.append_nil] at hup
      exact (List.dropLast_sublist _).mem hup
    · rwa [List.filter_cons_of_pos (by simp [hlast]), List.filter_nil, List.dropLast_concat] at hup
  obtain ⟨hmem, hidle⟩ := List.mem_filter.1 hfront
  have hin : Path.up ∈ (Path.ofText whole.text).names :=
    List.mem_filter.2 ⟨hpieces.subset hmem, hidle⟩
  rw [hwhole] at hin
  exact (hnamed _ hin).2 rfl

theorem lexicalPath_isAbsolute (rest : Text) (h : rest.head? = some '/') :
    (lexicalPath rest).isAbsolute = true := by
  have hroot := Path.rootOf_ne_relative rest h
  have hhead : ((Path.text ⟨Path.rootOf rest, Path.lexicalNames (Path.segments rest)⟩).takeWhile
      (· != Char.ofNat 0)).head? = some '/' := by
    cases hr : Path.rootOf rest with
    | relative => exact absurd hr hroot
    | slash => simp [Path.text, Root.text]
    | doubleSlash => simp [Path.text, Root.text]
  simpa [lexicalPath, Path.isAbsolute, Path.ofText] using Path.rootOf_ne_relative _ hhead

end Quarry.Disk
