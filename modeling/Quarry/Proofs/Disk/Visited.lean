import Quarry.Extraction
import Quarry.Proofs.Disk.Destination

/-! The locations that the system looks at on its way along a path. Two file systems that have the
same there lead to the same place; along a plain location they are the directories above it. -/
namespace Quarry.Disk

/-- The locations that are looked at on the way along segments, with the one where it ends. -/
def visited (disk : Disk) (links : Nat) (here : Location) : List Text → List Location
  | [] => [here]
  | segment :: rest =>
    here ::
      if disk.node? here != some .directory then []
      else if Path.isIdle segment then disk.visited links here rest
      else if segment = Path.up then disk.visited links here.dropLast rest
      else if nameLimit < octetCount segment then []
      else
        let next := here ++ [segment]
        match disk.node? next with
        | none => [next]
        | some (.link target) =>
          next ::
            match links with
            | 0 => []
            | links + 1 =>
              disk.visited links (linkOrigin target here) (Path.segments target ++ rest)
        | some _ => disk.visited links next rest
termination_by todo => (links, todo.length)

/-- A segment is the name of something to look for where the walk is. -/
structure Seeks (disk : Disk) (here : Location) (segment : Text) : Prop where
  directory : disk.node? here = some .directory
  leads : Path.isIdle segment = false
  notUp : segment ≠ Path.up
  short : octetCount segment ≤ nameLimit

section

variable {disk : Disk} {links : Nat} {here : Location} {segment : Text} {rest : List Text}

theorem seeks_congr (second : Disk) (hhere : disk.node? here = second.node? here)
    (h : disk.Seeks here segment) : second.Seeks here segment :=
  ⟨hhere ▸ h.directory, h.leads, h.notUp, h.short⟩

theorem seeks_of (hdir : ¬(disk.node? here != some .directory) = true)
    (hidle : ¬Path.isIdle segment = true) (hup : ¬segment = Path.up)
    (hshort : ¬nameLimit < octetCount segment) : disk.Seeks here segment :=
  ⟨by simpa using hdir, by simpa using hidle, hup, Nat.not_lt.1 hshort⟩

/-- What there is under a name decides how a walk goes on. -/
theorem walk_name (mayCreate : Bool) (h : disk.Seeks here segment) :
    disk.walk mayCreate links here (segment :: rest) =
      match disk.node? (here ++ [segment]), links with
      | none, _ =>
        if mayCreate && rest.isEmpty then .ok (here ++ [segment]) else .error .notFound
      | some (.link _), 0 => .error .tooManyLinks
      | some (.link target), links + 1 =>
        disk.walk mayCreate links (linkOrigin target here) (Path.segments target ++ rest)
      | some _, links => disk.walk mayCreate links (here ++ [segment]) rest := by
  have hdir : ¬(disk.node? here != some .directory) = true := by simp [h.directory]
  rw [walk, if_neg hdir, if_neg (by simp [h.leads]), if_neg h.notUp,
    if_neg (Nat.not_lt.2 h.short)]
  simp only
  cases disk.node? (here ++ [segment]) with
  | none => rfl
  | some node => cases node <;> cases links <;> rfl

theorem visited_name (h : disk.Seeks here segment) :
    disk.visited links here (segment :: rest) =
      here :: match disk.node? (here ++ [segment]), links with
        | none, _ => [here ++ [segment]]
        | some (.link _), 0 => [here ++ [segment]]
        | some (.link target), links + 1 =>
          (here ++ [segment]) ::
            disk.visited links (linkOrigin target here) (Path.segments target ++ rest)
        | some _, links => disk.visited links (here ++ [segment]) rest := by
  have hdir : ¬(disk.node? here != some .directory) = true := by simp [h.directory]
  rw [visited, if_neg hdir, if_neg (by simp [h.leads]), if_neg h.notUp,
    if_neg (Nat.not_lt.2 h.short)]
  simp only
  cases disk.node? (here ++ [segment]) with
  | none => rfl
  | some node => cases node <;> cases links <;> rfl

theorem walk_node (mayCreate : Bool) (h : disk.Seeks here segment) (node : Node)
    (hnode : disk.node? (here ++ [segment]) = some node) (hlink : ∀ target, node ≠ .link target) :
    disk.walk mayCreate links here (segment :: rest) =
      disk.walk mayCreate links (here ++ [segment]) rest := by
  rw [walk_name mayCreate h, hnode]
  cases node with
  | link target => exact absurd rfl (hlink target)
  | _ => rfl

theorem visited_node (h : disk.Seeks here segment) (node : Node)
    (hnode : disk.node? (here ++ [segment]) = some node) (hlink : ∀ target, node ≠ .link target) :
    disk.visited links here (segment :: rest) =
      here :: disk.visited links (here ++ [segment]) rest := by
  rw [visited_name h, hnode]
  cases node with
  | link target => exact absurd rfl (hlink target)
  | _ => rfl

theorem here_mem_visited (todo : List Text) : here ∈ disk.visited links here todo := by
  cases todo with
  | nil => simp [visited]
  | cons segment rest =>
    rw [visited]
    exact List.mem_cons_self

theorem next_mem_visited (h : disk.Seeks here segment) :
    here ++ [segment] ∈ disk.visited links here (segment :: rest) := by
  rw [visited_name h]
  apply List.mem_cons_of_mem
  split
  · exact List.mem_singleton.2 rfl
  · exact List.mem_singleton.2 rfl
  · exact List.mem_cons_self
  · exact here_mem_visited rest

end

/-- A walk is the same in two file systems that have the same wherever it looks. -/
theorem walk_congr (first second : Disk) (mayCreate : Bool) (links : Nat) (here : Location)
    (todo : List Text)
    (h : ∀ x ∈ first.visited links here todo, first.node? x = second.node? x) :
    first.walk mayCreate links here todo = second.walk mayCreate links here todo := by
  have hhere := h here (here_mem_visited _)
  -- By the cases of the first walk, each of which has looked where the second one goes.
  induction links, here, todo using walk.induct first mayCreate with
  | case1 links here => rw [walk, walk]
  | case2 links here segment rest hdir =>
    rw [walk, walk, ← hhere]
    simp only [if_pos hdir]
  | case3 links here segment rest hdir hidle ih =>
    rw [walk, walk, ← hhere]
    simp only [if_neg hdir, if_pos hidle]
    refine ih (fun x hx => h x ?_) hhere
    rw [visited, if_neg hdir, if_pos hidle]
    exact List.mem_cons_of_mem _ hx
  | case4 links here rest hdir hidle ih =>
    rw [walk, walk, ← hhere]
    simp only [if_neg hdir, if_neg hidle, if_true]
    have hrest : ∀ x ∈ first.visited links here.dropLast rest,
        first.node? x = second.node? x := by
      intro x hx
      apply h x
      rw [visited, if_neg hdir, if_neg hidle, if_pos rfl]
      exact List.mem_cons_of_mem _ hx
    exact ih hrest (hrest _ (here_mem_visited rest))
  | case5 links here segment rest hdir hidle hup hlong =>
    rw [walk, walk, ← hhere]
    simp only [if_neg hdir, if_neg hidle, if_neg hup, if_pos hlong]
  | case6 links here segment rest hdir hidle hup hshort next hnode hcreate
  | case7 links here segment rest hdir hidle hup hshort next hnode hcreate
  | case8 here segment rest hdir hidle hup hshort next target hnode =>
    have hs := seeks_of hdir hidle hup hshort
    have hnext := h next (next_mem_visited hs)
    rw [walk_name _ hs, walk_name _ (seeks_congr second hhere hs), ← hnext, hnode]
  | case9 here segment rest hdir hidle hup hshort next target hnode links ih =>
    have hs := seeks_of hdir hidle hup hshort
    have hnext := h next (next_mem_visited hs)
    have hrest : ∀ x ∈ first.visited links (linkOrigin target here)
        (Path.segments target ++ rest), first.node? x = second.node? x := by
      intro x hx
      apply h x
      rw [visited_name hs, hnode]
      exact List.mem_cons_of_mem _ (List.mem_cons_of_mem _ hx)
    rw [walk_name _ hs, walk_name _ (seeks_congr second hhere hs), ← hnext, hnode]
    exact ih hrest (hrest _ (here_mem_visited _))
  | case10 links here segment rest hdir hidle hup hshort next node hlink hnode ih =>
    have hs := seeks_of hdir hidle hup hshort
    have hnext := h next (next_mem_visited hs)
    have hrest : ∀ x ∈ first.visited links next rest, first.node? x = second.node? x := by
      intro x hx
      apply h x
      rw [visited_node hs node hnode hlink]
      exact List.mem_cons_of_mem _ hx
    rw [walk_node _ hs node hnode hlink,
      walk_node _ (seeks_congr second hhere hs) node (hnext ▸ hnode) hlink]
    exact ih hrest hnext

/-- A walk ends where it has looked. -/
theorem walk_mem_visited (disk : Disk) (mayCreate : Bool) (links : Nat) (here : Location)
    (todo : List Text) (ending : Location)
    (h : disk.walk mayCreate links here todo = .ok ending) :
    ending ∈ disk.visited links here todo := by
  induction links, here, todo using walk.induct disk mayCreate with
  | case1 links here =>
    rw [walk] at h
    obtain rfl : here = ending := Except.ok.inj h
    exact here_mem_visited []
  | case2 links here segment rest hdir =>
    rw [walk, if_pos hdir] at h
    cases h
  | case3 links here segment rest hdir hidle ih =>
    rw [walk, if_neg hdir, if_pos hidle] at h
    rw [visited, if_neg hdir, if_pos hidle]
    exact List.mem_cons_of_mem _ (ih h)
  | case4 links here rest hdir hidle ih =>
    rw [walk, if_neg hdir, if_neg hidle, if_pos rfl] at h
    rw [visited, if_neg hdir, if_neg hidle, if_pos rfl]
    exact List.mem_cons_of_mem _ (ih h)
  | case5 links here segment rest hdir hidle hup hlong =>
    rw [walk, if_neg hdir, if_neg hidle, if_neg hup, if_pos hlong] at h
    cases h
  | case6 links here segment rest hdir hidle hup hshort next hnode hcreate =>
    have hs := seeks_of hdir hidle hup hshort
    rw [walk_name _ hs, hnode] at h
    simp only [if_pos hcreate] at h
    obtain rfl : next = ending := Except.ok.inj h
    exact next_mem_visited hs
  | case7 links here segment rest hdir hidle hup hshort next hnode hcreate =>
    rw [walk_name _ (seeks_of hdir hidle hup hshort), hnode] at h
    simp only [if_neg hcreate] at h
    cases h
  | case8 here segment rest hdir hidle hup hshort next target hnode =>
    rw [walk_name _ (seeks_of hdir hidle hup hshort), hnode] at h
    cases h
  | case9 here segment rest hdir hidle hup hshort next target hnode links ih =>
    have hs := seeks_of hdir hidle hup hshort
    rw [walk_name _ hs, hnode] at h
    rw [visited_name hs, hnode]
    exact List.mem_cons_of_mem _ (List.mem_cons_of_mem _ (ih h))
  | case10 links here segment rest hdir hidle hup hshort next node hlink hnode ih =>
    have hs := seeks_of hdir hidle hup hshort
    rw [walk_node _ hs node hnode hlink] at h
    rw [visited_node hs node hnode hlink]
    exact List.mem_cons_of_mem _ (ih h)

/-- On the way to a plain location only the location and what is above it are looked at. -/
theorem visited_plain (disk : Disk) (links : Nat) (here : Location) (names : List Text)
    (h : disk.Plain (here ++ names)) (x : Location) (hx : x ∈ disk.visited links here names) :
    x <+: here ++ names := by
  induction names generalizing here with
  | nil =>
    obtain rfl : x = here := by simpa [visited] using hx
    exact List.prefix_append x []
  | cons name others ih =>
    have hname : IsName name := h.names name (by simp)
    have hlink : disk.link? (here ++ [name]) = none := h.linkFree _ (by simp)
    have hassoc : here ++ name :: others = here ++ [name] ++ others := by simp
    rw [visited] at hx
    rcases List.mem_cons.1 hx with rfl | hx
    · exact List.prefix_append _ _
    split at hx
    · cases hx
    rw [if_neg (by simp [hname.segment.leads]), if_neg hname.notUp] at hx
    split at hx
    · cases hx
    simp only at hx
    split at hx
    · obtain rfl : x = here ++ [name] := by simpa using hx
      exact hassoc ▸ List.prefix_append _ _
    · rename_i target hnode
      simp [(link?_eq_some disk _ target).2 hnode] at hlink
    · rw [hassoc]
      exact ih (here ++ [name]) (hassoc ▸ h) hx

/-- A walk along names of which none but the last leads up comes to too many links only if it comes
to a link below its start. Another system that has the same links looks at that one too. -/
theorem link_of_tooManyLinks (first second : Disk) (hf : first.Sound)
    (hlinks : ∀ x, first.link? x = second.link? x) (links : Nat) (here : Location)
    (names : List Text) (hleads : ∀ name ∈ names, Path.isIdle name = false)
    (hup : Path.up ∉ names.dropLast)
    (h : second.walk false links here names = .error .tooManyLinks) :
    ∃ x ∈ first.visited links here names, here <+: x ∧ here ≠ x ∧ first.link? x ≠ none := by
  have hsome (x : Location) (hx : first.link? x ≠ none) : first.node? x ≠ none := by
    intro hnone
    simp [link?, hnone] at hx
  induction names generalizing here with
  | nil =>
    rw [walk] at h
    cases h
  | cons name rest ih =>
    have hidle := hleads name List.mem_cons_self
    have hrest : ∀ other ∈ rest, Path.isIdle other = false := fun other hother =>
      hleads other (List.mem_cons_of_mem _ hother)
    by_cases hdir : (second.node? here != some .directory) = true
    · rw [walk, if_pos hdir] at h
      cases h
    by_cases hname : name = Path.up
    · -- A double dot is the last name, and leads to a directory.
      obtain rfl : rest = [] := by
        by_contra hne
        rw [List.dropLast_cons_of_ne_nil hne] at hup
        exact hup (hname ▸ List.mem_cons_self)
      rw [walk, if_neg hdir, if_neg (by simp [hidle]), if_pos hname, walk] at h
      cases h
    by_cases hlong : nameLimit < octetCount name
    · rw [walk, if_neg hdir, if_neg (by simp [hidle]), if_neg hname, if_pos hlong] at h
      cases h
    have hs := seeks_of hdir (by simp [hidle]) hname hlong
    -- Whatever is below a place in the first system, that place is a directory there.
    have hfirst (hnext : first.node? (here ++ [name]) ≠ none) : first.Seeks here name :=
      ⟨sound_parent first hf here name hnext, hidle, hname, hs.short⟩
    by_cases hlink : second.link? (here ++ [name]) = none
    · cases hnode : second.node? (here ++ [name]) with
      | none =>
        rw [walk_name _ hs, hnode] at h
        cases h
      | some node =>
        have hplain (target : Text) : node ≠ .link target := by
          rintro rfl
          simp [link?, hnode] at hlink
        rw [walk_node _ hs node hnode hplain] at h
        have hup' : Path.up ∉ rest.dropLast := fun hmem => hup <| by
          rw [List.dropLast_cons_of_ne_nil (by rintro rfl; cases hmem)]
          exact List.mem_cons_of_mem _ hmem
        obtain ⟨x, hx, hbelow, hne, hxlink⟩ := ih (here ++ [name]) hrest hup' h
        have hnext := sound_above first hf _ x hbelow hne (hsome x hxlink)
        refine ⟨x, ?_, (List.prefix_append _ _).trans hbelow, ?_, hxlink⟩
        · rw [visited_node (hfirst (by simp [hnext])) .directory hnext (by simp)]
          exact List.mem_cons_of_mem _ hx
        · rintro rfl
          have hlength := hbelow.length_le
          rw [List.length_append, List.length_singleton] at hlength
          omega
    · have hxlink : first.link? (here ++ [name]) ≠ none := by rwa [hlinks]
      exact ⟨_, next_mem_visited (hfirst (hsome _ hxlink)), List.prefix_append _ _, by simp, hxlink⟩

/-- The locations that the system looks at to find what a path leads to. -/
def lookedAt (disk : Disk) (path : Path) : List Location :=
  disk.visited linkLimit (disk.origin path) path.names

theorem lookedAt_plain (disk : Disk) (location : Location) (h : disk.Plain location)
    (x : Location) (hx : x ∈ disk.lookedAt ⟨.slash, location⟩) : x <+: location :=
  visited_plain disk linkLimit [] location h x hx

/-- What a circle of links leaves of a path meets too many links only if it meets one. -/
theorem locate_lexicalPath (first second : Disk) (hf : first.Sound)
    (hlinks : ∀ x, first.link? x = second.link? x)
    (hstart : first.workingDirectory = second.workingDirectory) (rest : Text)
    (hfree : ∀ x ∈ first.lookedAt (lexicalPath rest), first.link? x = none) :
    second.locate (lexicalPath rest) ≠ .error .tooManyLinks := by
  have horigin : first.origin (lexicalPath rest) = second.origin (lexicalPath rest) := by
    simp only [origin, hstart]
  rw [locate]
  split
  · simp
  · intro h
    rw [← horigin] at h
    obtain ⟨x, hx, -, -, hlink⟩ := link_of_tooManyLinks first second hf hlinks _ _ _
      (fun name hname => (lexicalPath_spelled rest name hname).leads)
      (up_notMem_lexicalPath rest) h
    exact hlink (hfree x hx)

section

variable (first second : Disk) (path : Path)
  (h : ∀ x ∈ first.lookedAt path, first.node? x = second.node? x)

include h

theorem found_congr (location : Location) (hl : first.locate path = .ok location) :
    first.node? location = second.node? location := by
  apply h
  unfold locate at hl
  split at hl
  · cases hl
  · exact walk_mem_visited first false linkLimit _ _ location hl

variable (hstart : first.workingDirectory = second.workingDirectory)

include hstart

theorem locate_congr : first.locate path = second.locate path := by
  have horigin : first.origin path = second.origin path := by simp only [origin, hstart]
  simp only [locate, ← horigin, walk_congr first second false linkLimit _ path.names h]

theorem size_congr : first.size path = second.size path := by
  simp only [size, ← locate_congr first second path h hstart, bind, Except.bind]
  split
  · rfl
  · rename_i location hl
    rw [found_congr first second path h location hl]

theorem read_congr : first.read path = second.read path := by
  simp only [read, ← locate_congr first second path h hstart, bind, Except.bind]
  split
  · rfl
  · rename_i location hl
    rw [found_congr first second path h location hl]

theorem readText_congr : first.readText path = second.readText path := by
  simp only [readText, read_congr first second path h hstart]

end

end Quarry.Disk
