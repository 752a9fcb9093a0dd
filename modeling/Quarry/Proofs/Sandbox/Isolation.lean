import Quarry.Disk.Edit
import Quarry.Document
import Quarry.Proofs.Disk.Visited
import Quarry.Proofs.Sandbox.Containment

/-! What is outside the base directory does not show. Two file systems that have the same links and
the same within the base give every request the same answer. -/
namespace Quarry

namespace Disk

/-- Two states between which nothing within the base has changed, nor any link anywhere. -/
structure AgreeWithin (first second : Disk) (base : Location) : Prop where
  start : first.workingDirectory = second.workingDirectory
  links : ∀ x, first.link? x = second.link? x
  inside : ∀ x, base <+: x → first.node? x = second.node? x

/-- The locations within the base, and those on the way to it or to a link. -/
def Shared (disk : Disk) (base location : Location) : Prop :=
  base <+: location ∨ ∃ below, location <+: below ∧ (below = base ∨ disk.link? below ≠ none)

/-- Where the links of the path run in a circle, and what is left of it lies within the base or meets
a link, the system that follows what is left looks at nothing but what is shared. -/
def StaysWithin (disk : Disk) (base path : Path) : Prop :=
  ∀ rest, disk.destination path = .circle rest →
    (lexicalPath rest).isWithin base = true ∨
        (∃ x ∈ disk.lookedAt (lexicalPath rest), disk.link? x ≠ none) →
      ∀ x ∈ disk.lookedAt (lexicalPath rest), disk.Shared base.names x

theorem staysWithin_of_location (disk : Disk) (base path : Path) (location : Location)
    (h : disk.destination path = .location location) : disk.StaysWithin base path := by
  intro rest hrest
  rw [h] at hrest
  cases hrest

section

variable (first second : Disk) (hf : first.Sound) (hs : second.Sound) (base : Location)
  (agree : first.AgreeWithin second base)

include agree in
theorem node?_of_link (location : Location) (h : first.link? location ≠ none) :
    first.node? location = second.node? location := by
  obtain ⟨target, htarget⟩ := Option.ne_none_iff_exists'.1 h
  have hsecond : second.link? location = some target := agree.links location ▸ htarget
  rw [(link?_eq_some first location target).1 htarget,
    (link?_eq_some second location target).1 hsecond]

include hf hs in
/-- Above a place where both have something, both have directories. -/
theorem node?_above (above below : Location) (h : above <+: below) (hne : above ≠ below)
    (hsome : first.node? below ≠ none) (hsame : first.node? below = second.node? below) :
    first.node? above = second.node? above := by
  rw [sound_above first hf above below h hne hsome,
    sound_above second hs above below h hne (hsame ▸ hsome)]

include hf hs agree in
theorem node?_of_shared
    (habove : first.node? base = none → ∀ x, x <+: base → first.node? x = second.node? x)
    (location : Location) (h : first.Shared base location) :
    first.node? location = second.node? location := by
  rcases h with h | ⟨below, hbelow, h⟩
  · exact agree.inside location h
  -- Whatever exists below a location makes it a directory in both systems.
  by_cases hbase : below = base ∧ first.node? base = none
  · obtain ⟨rfl, hnone⟩ := hbase
    exact habove hnone location hbelow
  · have hsome : first.node? below ≠ none := by
      intro hnone
      rcases h with rfl | h
      · exact hbase ⟨rfl, hnone⟩
      · simp [link?, hnone] at h
    have hsame : first.node? below = second.node? below := by
      rcases h with rfl | h
      · exact agree.inside below (List.prefix_refl below)
      · exact node?_of_link first second base agree below h
    by_cases hne : location = below
    · rwa [hne]
    · exact node?_above first second hf hs location below hbelow hne hsome hsame

include hf agree in
/-- A path has the same form without links where what a circle of links leaves of it meets no link,
or leads through the same. -/
theorem resolve_congr (path : Path)
    (h : ∀ rest, first.destination path = .circle rest →
      (∃ x ∈ first.lookedAt (lexicalPath rest), first.link? x ≠ none) →
        ∀ x ∈ first.lookedAt (lexicalPath rest), first.node? x = second.node? x) :
    first.resolve path = second.resolve path := by
  have hdestination := destination_congr first second agree.links agree.start path
  cases hrest : first.destination path with
  | nulCharacter | location _ => rw [resolve_eq, resolve_eq, ← hdestination, hrest]
  | circle rest =>
    by_cases hmeets : ∃ x ∈ first.lookedAt (lexicalPath rest), first.link? x ≠ none
    · rw [resolve_eq, resolve_eq, ← hdestination, hrest]
      dsimp only
      rw [locate_congr first second _ (h rest hrest hmeets) agree.start]
    -- Without a link there are none too many, whatever else there is.
    · have hfree : ∀ x ∈ first.lookedAt (lexicalPath rest), first.link? x = none := by
        simpa using hmeets
      rw [resolve_of_circle first path rest hrest
          (locate_lexicalPath first first hf (fun _ => rfl) rfl rest hfree),
        resolve_of_circle second path rest (hdestination.symm.trans hrest)
          (locate_lexicalPath first second hf agree.links agree.start rest hfree)]

end

end Disk

namespace Sandbox

section

variable (first second : Disk) (hf : first.Sound) (hs : second.Sound) (sandbox : Sandbox)
  (hspelled : sandbox.base.Spelled) (base : Path)
  (hbase : canonical first sandbox.base = .ok base)
  (agree : first.AgreeWithin second base.names)
  (habove : first.node? base.names = none →
    ∀ x, x <+: base.names → first.node? x = second.node? x)
  (hb : first.StaysWithin base sandbox.base) (requested : Option Text)
  (hr : ∀ text, requested = some text → first.StaysWithin base (base.join (.ofText text)))

include hf hs agree habove in
theorem canonical_congr (path : Path) (h : first.StaysWithin base path) :
    canonical first path = canonical second path := by
  have hsame := Disk.resolve_congr first second hf base.names agree path
    fun rest hrest hmeets x hx => Disk.node?_of_shared first second hf hs base.names agree habove x
      (h rest hrest (Or.inr hmeets) x hx)
  simp only [canonical, hsame]

include hf hs hbase agree habove hb hr in
theorem resolve_congr : sandbox.resolve first requested = sandbox.resolve second requested := by
  have hbase' := canonical_congr first second hf hs base agree habove sandbox.base hb
  cases requested with
  | none => rfl
  | some text =>
    have hpath := canonical_congr first second hf hs base agree habove _ (hr text rfl)
    simp only [resolve, ← hbase']
    split
    · rfl
    · apply Traced.bind_congr
      intro found hfound
      obtain rfl : base = found := Except.ok.inj (hbase.symm.trans hfound)
      rw [hpath]

include hf hspelled hbase hr in
/-- To find what is let through the system looks at nothing but what is shared. -/
theorem lookedAt_shared (path : Path) (h : (sandbox.resolve first requested).outcome = .ok path)
    (x : Location) (hx : x ∈ first.lookedAt path) : first.Shared base.names x := by
  obtain ⟨text, found, rfl, -, hfound, hpath, hw⟩ := (resolve_eq_ok _ _ _ _).1 h
  obtain rfl : base = found := Except.ok.inj (hbase.symm.trans hfound)
  have hjoin := Path.join_spelled base (.ofText text)
    (canonical_spelled first hf sandbox.base base hspelled hbase) (Path.ofText_spelled text)
  rcases Disk.resolve_cases first _ path ((canonical_eq_ok first _ path).1 hpath) with
    ⟨location, hlocation, rfl⟩ | ⟨rest, hrest, rfl⟩
  · have hplain := Disk.destination_plain first hf _ hjoin location hlocation
    have hx' := Disk.lookedAt_plain first location hplain x hx
    have hin : base.names <+: location := by
      simp only [Path.isWithin, Bool.and_eq_true, List.isPrefixOf_iff_prefix] at hw
      exact hw.2
    rcases List.prefix_or_prefix_of_prefix hx' hin with hup | hdown
    · exact Or.inr ⟨base.names, hup, Or.inl rfl⟩
    · exact Or.inl hdown
  · exact hr text rfl rest hrest (Or.inl hw) x hx

include hf hs hspelled hbase agree habove hr in
theorem lookedAt_same (path : Path) (h : (sandbox.resolve first requested).outcome = .ok path) :
    ∀ x ∈ first.lookedAt path, first.node? x = second.node? x := by
  intro x hx
  apply Disk.node?_of_shared first second hf hs base.names agree habove
  exact lookedAt_shared first hf sandbox hspelled base hbase requested hr path h x hx

include hf hs hspelled hbase agree habove hb hr in
theorem check_congr : sandbox.check first requested = sandbox.check second requested := by
  simp only [check,
    ← resolve_congr first second hf hs sandbox base hbase agree habove hb requested hr]
  apply Traced.bind_congr
  intro path hpath
  have hsame := lookedAt_same first second hf hs sandbox hspelled base hbase agree habove
    requested hr path hpath
  simp only [checkSize, Disk.size_congr first second path hsame agree.start]

end

end Sandbox

namespace Disk

theorem node?_put_self (disk : Disk) (location : Location) (node : Node) (hn : location ≠ []) :
    (disk.put location node).node? location = some node := by
  simp [node?, put, hn]

theorem node?_put_of_ne (disk : Disk) (location other : Location) (node : Node)
    (h : other ≠ location) : (disk.put location node).node? other = disk.node? other := by
  have hne : (other == location) = false := beq_eq_false_iff_ne.2 h
  have hfilter (nodes : List (Location × Node)) :
      (nodes.filter fun entry => entry.1 != location).lookup other = nodes.lookup other := by
    induction nodes with
    | nil => rfl
    | cons entry nodes ih =>
      by_cases he : entry.1 = location
      · rw [List.filter_cons_of_neg (by simp [he]), ih, List.lookup_cons]
        simp [he, hne]
      · rw [List.filter_cons_of_pos (by simp [he]), List.lookup_cons, List.lookup_cons, ih]
  simp only [node?, put, List.lookup_cons, hne, hfilter]

/-- Writing a file outside, where there is no link, changes nothing within. -/
theorem agreeWithin_put (disk : Disk) (base location : Location) (octets : List UInt8)
    (hn : location ≠ []) (hlink : disk.link? location = none) (hout : ¬base <+: location) :
    disk.AgreeWithin (disk.put location (.file octets)) base := by
  refine ⟨rfl, fun x => ?_, fun x hx => ?_⟩
  · by_cases hx : x = location
    · rw [hx, hlink, link?, node?_put_self disk location _ hn]
    · simp only [link?, node?_put_of_ne disk location x _ hx]
  · have hne : x ≠ location := fun he => hout (he ▸ hx)
    rw [node?_put_of_ne disk location x _ hne]

end Disk

namespace DocumentReader

/-- A reader answers a request the same, result, fault and log, in two states that have the same
links and the same within the base. What is in the place above a base that does not exist must be
the same too, and what the system looks at when links run in a circle and what is left of the path
lies within the base or meets a link. -/
theorem parseFile_isolated (first second : Disk) (hf : first.Sound) (hs : second.Sound)
    (reader : DocumentReader) (spelling : Text)
    (hspelling : reader.settings.baseDir = .ofText spelling) (base : Path)
    (hbase : Sandbox.canonical first reader.settings.baseDir = .ok base)
    (agree : first.AgreeWithin second base.names)
    (habove : first.node? base.names = none →
      ∀ x, x <+: base.names → first.node? x = second.node? x)
    (hb : first.StaysWithin base reader.settings.baseDir) (requested : Option Text)
    (hr : ∀ text, requested = some text → first.StaysWithin base (base.join (.ofText text)))
    (engines : Engines) :
    reader.parseFile engines first requested = reader.parseFile engines second requested ∧
      reader.detectFile first requested = reader.detectFile second requested := by
  have hspelled : reader.sandbox.base.Spelled := by
    simp only [sandbox, hspelling]
    exact Path.ofText_spelled spelling
  have hcheck := Sandbox.check_congr first second hf hs reader.sandbox hspelled base hbase agree
    habove hb requested hr
  have hsame (path : Path) (h : (reader.sandbox.check first requested).outcome = .ok path) :=
    Sandbox.lookedAt_same first second hf hs reader.sandbox hspelled base hbase agree habove
      requested hr path (Sandbox.check_eq_ok _ _ _ _ h).1
  constructor
  · simp only [parseFile, ← hcheck]
    apply Traced.bind_congr
    intro path hpath
    simp only [parseBinary, readText,
      Disk.read_congr first second path (hsame path hpath) agree.start,
      Disk.readText_congr first second path (hsame path hpath) agree.start]
  · simp only [detectFile, ← hcheck]
    apply Traced.bind_congr
    intro path hpath
    simp only [readText, Disk.readText_congr first second path (hsame path hpath) agree.start]

open Sandbox (linkedDisk)

/-- A reader of the directory `k`, with small limits. -/
def smallReader : DocumentReader := ⟨⟨.ofText ['/', 'k'], 3, 3⟩, .standard, ⟨none⟩⟩

theorem parseFile_isolated_links :
    linkedDisk.Sound ∧ (linkedDisk.put [['s']] (.file [8])).Sound ∧
    Sandbox.canonical linkedDisk smallReader.settings.baseDir = .ok ⟨.slash, [['k']]⟩ ∧
    linkedDisk.AgreeWithin (linkedDisk.put [['s']] (.file [8])) [['k']] ∧
    ∀ requested ∈ [some ['i'], some ['r'], some "r/../../s".toList], ∀ engines,
      smallReader.parseFile engines linkedDisk requested =
        smallReader.parseFile engines (linkedDisk.put [['s']] (.file [8])) requested ∧
      smallReader.detectFile linkedDisk requested =
        smallReader.detectFile (linkedDisk.put [['s']] (.file [8])) requested := by
  let base : Path := ⟨.slash, [['k']]⟩
  have hs : (linkedDisk.put [['s']] (.file [8])).Sound := ⟨by decide, by decide, by decide⟩
  have hbase : Sandbox.canonical linkedDisk smallReader.settings.baseDir = .ok base := by cbv
  have agree := Disk.agreeWithin_put linkedDisk [['k']] [['s']] [8] (by decide) (by decide)
    (by decide)
  have hb : linkedDisk.StaysWithin base smallReader.settings.baseDir := by
    apply Disk.staysWithin_of_location linkedDisk base _ [['k']]
    cbv
  have hi : linkedDisk.StaysWithin base (base.join (.ofText ['i'])) := by
    apply Disk.staysWithin_of_location linkedDisk base _ [['k'], ['a']]
    cbv
  have hr : linkedDisk.StaysWithin base (base.join (.ofText ['r'])) := by
    have hcircle : linkedDisk.destination (base.join (.ofText ['r'])) =
        .circle ['/', 'k', '/', 'r', '/'] := by cbv
    have hall : (linkedDisk.lookedAt (Disk.lexicalPath ['/', 'k', '/', 'r', '/'])).all
        (fun x => [['k']].isPrefixOf x || x.isPrefixOf [['k']]) = true := by cbv
    intro rest hrest _ x hx
    obtain rfl : _ = rest := Disk.Destination.circle.inj (hcircle.symm.trans hrest)
    have hx' := List.all_eq_true.1 hall x hx
    simp only [Bool.or_eq_true, List.isPrefixOf_iff_prefix] at hx'
    rcases hx' with h | h
    · exact Or.inl h
    · exact Or.inr ⟨[['k']], h, Or.inl rfl⟩
  -- What is left of this one lies outside, and there is no link on the way.
  have hout : linkedDisk.StaysWithin base (base.join (.ofText "r/../../s".toList)) := by
    have hcircle : linkedDisk.destination (base.join (.ofText "r/../../s".toList)) =
        .circle "/k/r/../../s".toList := by cbv
    have hleft : Disk.lexicalPath "/k/r/../../s".toList = ⟨.slash, [['s']]⟩ := by cbv
    have hlooked : linkedDisk.lookedAt ⟨.slash, [['s']]⟩ = [[], [['s']]] := by cbv
    intro rest hrest h
    obtain rfl : _ = rest := Disk.Destination.circle.inj (hcircle.symm.trans hrest)
    rw [hleft, hlooked] at h
    exact absurd h (by decide)
  have habove : linkedDisk.node? [['k']] = none → ∀ x, x <+: [['k']] →
      linkedDisk.node? x = (linkedDisk.put [['s']] (.file [8])).node? x :=
    fun h => absurd h (by decide)
  refine ⟨Sandbox.linkedDisk_sound, hs, hbase, agree, fun requested hrequested engines => ?_⟩
  apply parseFile_isolated linkedDisk _ Sandbox.linkedDisk_sound hs smallReader ['/', 'k'] rfl
    base hbase agree habove hb
  intro text htext
  simp only [List.mem_cons, List.not_mem_nil, or_false, htext, Option.some.injEq] at hrequested
  rcases hrequested with rfl | rfl | rfl
  · exact hi
  · exact hr
  · exact hout

/-- A base that does not exist shows whether there is a file in the place above it, and a path
through links that run in a circle shows the size of a file outside. -/
theorem parseFile_shows_outside :
    (Disk.empty.Sound ∧ (Disk.empty.put [['x']] (.file [])).Sound ∧
      Sandbox.canonical .empty (.ofText ['/', 'x', '/', 'k']) = .ok ⟨.slash, [['x'], ['k']]⟩ ∧
      Disk.empty.AgreeWithin (Disk.empty.put [['x']] (.file [])) [['x'], ['k']] ∧
      ∀ engines, let reader : DocumentReader :=
          { smallReader with settings := ⟨.ofText ['/', 'x', '/', 'k'], 3, 3⟩ }
        (reader.parseFile engines .empty (some ['a'])).outcome =
          .error (.fileMissing ['/', 'x', '/', 'k', '/', 'a']) ∧
        (reader.parseFile engines (Disk.empty.put [['x']] (.file [])) (some ['a'])).outcome =
          .error (.sizeUnknown ['/', 'x', '/', 'k', '/', 'a'])) ∧
    (linkedDisk.Sound ∧ (linkedDisk.put [['s']] (.file [4, 5, 6, 7, 8])).Sound ∧
      Sandbox.canonical linkedDisk smallReader.settings.baseDir = .ok ⟨.slash, [['k']]⟩ ∧
      linkedDisk.AgreeWithin (linkedDisk.put [['s']] (.file [4, 5, 6, 7, 8])) [['k']] ∧
      ∀ engines,
        (smallReader.parseFile engines linkedDisk
            (some ['r', '/', '.', '.', '/', 'o'])).outcome =
          .error (.fileTooLarge ['/', 'k', '/', 'o'] 4 3) ∧
        (smallReader.parseFile engines (linkedDisk.put [['s']] (.file [4, 5, 6, 7, 8]))
            (some ['r', '/', '.', '.', '/', 'o'])).outcome =
          .error (.fileTooLarge ['/', 'k', '/', 'o'] 5 3)) := by
  refine ⟨⟨⟨by decide, by decide, by decide⟩, ⟨by decide, by decide, by decide⟩, by cbv, ?_, ?_⟩,
    Sandbox.linkedDisk_sound, ⟨by decide, by decide, by decide⟩, by cbv, ?_, ?_⟩
  · exact Disk.agreeWithin_put .empty _ _ _ (by decide) (by decide) (by decide)
  · intro engines
    exact ⟨by cbv, by cbv⟩
  · exact Disk.agreeWithin_put linkedDisk _ _ _ (by decide) (by decide) (by decide)
  · intro engines
    exact ⟨by cbv, by cbv⟩

end DocumentReader
end Quarry
