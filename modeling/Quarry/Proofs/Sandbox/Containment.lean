import Mathlib
import Quarry.Sandbox
import Quarry.Proofs.Disk.Destination
import Quarry.Proofs.Trace

/-! What the sandbox lets through lies within its base. It is the form of the path without links
and double dots, unless links that run in a circle have left something else of it. -/
namespace Quarry

/-- A path from the root without links and double dots. -/
structure Disk.Canonical (disk : Disk) (path : Path) : Prop where
  root : path.root = .slash
  noUp : Path.up ∉ path.names
  linkFree : ∀ part, part <+: path.names → disk.link? part = none

namespace Sandbox

theorem canonical_eq_ok (disk : Disk) (path resolved : Path) :
    canonical disk path = .ok resolved ↔ disk.resolve path = .ok resolved := by
  unfold canonical
  split
  · rename_i found hfound
    simp [hfound]
  · rename_i h
    simp [h]
  · rename_i h
    simp [h]

/-- The sandbox lets a path through if its form without links is within that of the base. -/
theorem resolve_eq_ok (sandbox : Sandbox) (disk : Disk) (requested : Option Text) (path : Path) :
    (sandbox.resolve disk requested).outcome = .ok path ↔
      ∃ text base, requested = some text ∧ Text.isBlank text = false ∧
        canonical disk sandbox.base = .ok base ∧
        canonical disk (base.join (.ofText text)) = .ok path ∧ path.isWithin base = true := by
  cases requested with
  | none => simp [resolve]
  | some text =>
    by_cases hblank : Text.isBlank text = true
    · simp [resolve, hblank]
    · simp only [resolve, if_neg hblank, Traced.outcome_bind_eq_ok, Traced.outcome_ofExcept]
      constructor
      · rintro ⟨base, hbase, found, hfound, h⟩
        by_cases hw : found.isWithin base = true
        · rw [if_pos hw] at h
          obtain rfl : found = path := Except.ok.inj h
          exact ⟨text, base, rfl, by simpa using hblank, hbase, hfound, hw⟩
        · rw [if_neg hw, Traced.outcome_bind_eq_ok] at h
          obtain ⟨_, _, h⟩ := h
          cases h
      · rintro ⟨found, base, htext, _, hbase, hpath, hw⟩
        obtain rfl : text = found := Option.some.inj htext
        exact ⟨base, hbase, path, hpath, by rw [if_pos hw]; rfl⟩

theorem checkSize_eq_ok (sandbox : Sandbox) (disk : Disk) (path : Path) (size : Nat)
    (h : sandbox.checkSize disk path = .ok size) :
    disk.size path = .ok size ∧ size ≤ sandbox.maxFileSize := by
  unfold checkSize at h
  split at h
  · cases h
  · split at h
    · cases h
    · cases h
    · rename_i found hfound
      split at h
      · cases h
      · obtain rfl : found = size := by simpa using h
        exact ⟨hfound, by omega⟩

theorem check_eq_ok (sandbox : Sandbox) (disk : Disk) (requested : Option Text) (path : Path)
    (h : (sandbox.check disk requested).outcome = .ok path) :
    (sandbox.resolve disk requested).outcome = .ok path ∧
      ∃ size, disk.size path = .ok size ∧ size ≤ sandbox.maxFileSize := by
  simp only [check, Traced.outcome_bind_eq_ok, Traced.outcome_ofExcept, Traced.outcome_pure,
    Except.ok.injEq] at h
  obtain ⟨found, hfound, size, hsize, rfl⟩ := h
  exact ⟨hfound, size, checkSize_eq_ok sandbox disk found size hsize⟩

/-- What is left of a requested path where its links run in a circle. -/
def remnant? (sandbox : Sandbox) (disk : Disk) (requested : Text) : Option Path :=
  match canonical disk sandbox.base with
  | .error _ => none
  | .ok base =>
    match disk.destination (base.join (.ofText requested)) with
    | .circle rest => some (Disk.lexicalPath rest)
    | _ => none

section

variable (sandbox : Sandbox) (disk : Disk) (hd : disk.Sound)

theorem canonical_isAbsolute (path resolved : Path) (h : canonical disk path = .ok resolved) :
    resolved.isAbsolute = true := by
  rcases Disk.resolve_cases disk path resolved ((canonical_eq_ok disk path resolved).1 h) with
    ⟨location, hlocation, rfl⟩ | ⟨rest, hrest, rfl⟩
  · rfl
  · exact Disk.lexicalPath_isAbsolute rest (Disk.follow_circle_head disk _ _ _ _ rest hrest)

include hd in
theorem canonical_spelled (path resolved : Path) (hp : path.Spelled)
    (h : canonical disk path = .ok resolved) : resolved.Spelled := by
  rcases Disk.resolve_cases disk path resolved ((canonical_eq_ok disk path resolved).1 h) with
    ⟨location, hlocation, rfl⟩ | ⟨rest, hrest, rfl⟩
  · have hplain := Disk.destination_plain disk hd path hp location hlocation
    exact fun name hname => (hplain.names name hname).segment
  · exact Disk.lexicalPath_spelled rest

theorem canonical_of_plain (location : Location) (h : disk.Plain location) :
    disk.Canonical ⟨.slash, location⟩ :=
  ⟨rfl, fun hup => (h.names _ hup).notUp rfl, h.linkFree⟩

/-- A plain location within the base is let through under its own text. -/
theorem resolve_text (base : Path) (hbase : canonical disk sandbox.base = .ok base)
    (location : Location) (h : disk.Plain location)
    (hw : (Path.mk .slash location).isWithin base = true) :
    (sandbox.resolve disk (some (Path.text ⟨.slash, location⟩))).outcome =
      .ok ⟨.slash, location⟩ := by
  have hread := Path.ofText_text ⟨.slash, location⟩ fun name hname => (h.names name hname).segment
  have hjoin : base.join ⟨.slash, location⟩ = ⟨.slash, location⟩ := rfl
  have hpath : canonical disk ⟨.slash, location⟩ = .ok ⟨.slash, location⟩ := by
    rw [canonical_eq_ok, Disk.resolve_eq, Disk.destination_of_plain disk location h]
  have hslash : Text.isBlankChar '/' = false := by decide
  have hblank : Text.isBlank (Path.text ⟨.slash, location⟩) = false := by
    simp [Path.text, Root.text, Text.isBlank, hslash]
  rw [resolve_eq_ok]
  exact ⟨_, base, rfl, hblank, hbase, by rw [hread, hjoin, hpath], hw⟩

theorem remnant?_eq_some (base : Path) (hbase : canonical disk sandbox.base = .ok base)
    (requested : Text) (left : Path) :
    sandbox.remnant? disk requested = some left ↔
      ∃ rest, disk.destination (base.join (.ofText requested)) = .circle rest ∧
        Disk.lexicalPath rest = left := by
  simp only [remnant?, hbase]
  split
  · rename_i rest hrest
    simp [hrest]
  · rename_i h
    constructor
    · intro hnone
      cases hnone
    · rintro ⟨rest, hrest, -⟩
      exact absurd hrest (h rest)

include hd in
/-- A path that is let through is plain, if what a circle of links may have left of it is. -/
theorem resolve_plain (hb : sandbox.base.Spelled) (requested : Text) (path : Path)
    (h : (sandbox.resolve disk (some requested)).outcome = .ok path)
    (hleft : ∀ left, sandbox.remnant? disk requested = some left → disk.Canonical left) :
    path.root = .slash ∧ disk.Plain path.names := by
  obtain ⟨text, base, htext, -, hbase, hpath, -⟩ := (resolve_eq_ok _ _ _ _).1 h
  obtain rfl : requested = text := Option.some.inj htext
  have hspelled := Path.join_spelled base (.ofText requested)
    (canonical_spelled disk hd sandbox.base base hb hbase) (Path.ofText_spelled requested)
  rcases Disk.resolve_cases disk _ path ((canonical_eq_ok disk _ path).1 hpath) with
    ⟨location, hlocation, rfl⟩ | ⟨rest, hrest, rfl⟩
  · exact ⟨rfl, Disk.destination_plain disk hd _ hspelled location hlocation⟩
  · have hcanonical := hleft _ ((remnant?_eq_some sandbox disk base hbase requested _).2
      ⟨rest, hrest, rfl⟩)
    refine ⟨hcanonical.root, ⟨fun name hname => ?_, hcanonical.linkFree⟩⟩
    exact ⟨Disk.lexicalPath_spelled rest name hname,
      fun hup => hcanonical.noUp (hup ▸ hname), Disk.lexicalPath_noNul rest name hname⟩

end

/-- What is let through starts at the root and lies within the base, and what passes the check is
no larger than the limit. It is free of links and double dots, and let through again by its own
text, exactly if what a circle of links may have left of the request is free of them. -/
theorem resolve_contained (disk : Disk) (hd : disk.Sound) (spelling : Text) (limit : Nat) :
    let sandbox : Sandbox := ⟨.ofText spelling, limit⟩
    (∀ requested path, (sandbox.resolve disk requested).outcome = .ok path →
      path.isAbsolute = true ∧
      (∃ base, canonical disk sandbox.base = .ok base ∧ path.isWithin base = true) ∧
      ((disk.Canonical path ∧ (sandbox.resolve disk (some path.text)).outcome = .ok path) ↔
        ∀ left, requested.bind (sandbox.remnant? disk) = some left → disk.Canonical left)) ∧
    ∀ requested path, (sandbox.check disk requested).outcome = .ok path →
      (sandbox.resolve disk requested).outcome = .ok path ∧
        ∃ size, disk.size path = .ok size ∧ size ≤ limit := by
  intro sandbox
  refine ⟨fun requested path h => ?_, fun requested path h => check_eq_ok sandbox disk _ path h⟩
  obtain ⟨text, base, rfl, -, hbase, hpath, hw⟩ := (resolve_eq_ok _ _ _ _).1 h
  refine ⟨canonical_isAbsolute disk _ path hpath, ⟨base, hbase, hw⟩, ?_, ?_⟩
  · rintro ⟨hcanonical, -⟩ left hleft
    obtain ⟨rest, hrest, rfl⟩ := (remnant?_eq_some sandbox disk base hbase text left).1 hleft
    -- In a circle of links the path that is let through is the one that is left.
    rcases Disk.resolve_cases disk _ path ((canonical_eq_ok disk _ path).1 hpath) with
      ⟨location, hlocation, -⟩ | ⟨rest', hrest', rfl⟩
    · rw [hrest] at hlocation
      cases hlocation
    · obtain rfl : rest = rest' := Disk.Destination.circle.inj (hrest.symm.trans hrest')
      exact hcanonical
  · intro hleft
    obtain ⟨hroot, hplain⟩ :=
      resolve_plain sandbox disk hd (Path.ofText_spelled spelling) text path h hleft
    obtain ⟨root, names⟩ := path
    obtain rfl : root = .slash := hroot
    exact ⟨canonical_of_plain disk names hplain,
      resolve_text sandbox disk base hbase names hplain hw⟩

/-- A directory with a file `a`, a link `i` to it, a link `r` to itself and a link `o` to a file
`s` outside. -/
def linkedDisk : Disk where
  nodes :=
    [([['k']], .directory), ([['k'], ['a']], .file [1, 2, 3]), ([['k'], ['i']], .link ['a']),
     ([['k'], ['r']], .link ['r']), ([['k'], ['o']], .link ['.', '.', '/', 's']),
     ([['s']], .file [4, 5, 6, 7])]
  workingDirectory := []

theorem linkedDisk_sound : linkedDisk.Sound := ⟨by decide, by decide, by decide⟩

theorem resolve_contained_link :
    linkedDisk.Sound ∧
    ((⟨.ofText ['/', 'k'], 3⟩ : Sandbox).resolve linkedDisk (some ['i'])).outcome =
      .ok ⟨.slash, [['k'], ['a']]⟩ ∧
    linkedDisk.Canonical ⟨.slash, [['k'], ['a']]⟩ ∧
    ((⟨.ofText ['/', 'k'], 3⟩ : Sandbox).resolve linkedDisk
      (some (Path.text ⟨.slash, [['k'], ['a']]⟩))).outcome = .ok ⟨.slash, [['k'], ['a']]⟩ := by
  have hresolve : ((⟨.ofText ['/', 'k'], 3⟩ : Sandbox).resolve linkedDisk (some ['i'])).outcome =
      .ok ⟨.slash, [['k'], ['a']]⟩ := by cbv
  have hnone : (⟨.ofText ['/', 'k'], 3⟩ : Sandbox).remnant? linkedDisk ['i'] = none := by cbv
  have h := (resolve_contained linkedDisk linkedDisk_sound ['/', 'k'] 3).1 _ _ hresolve
  exact ⟨linkedDisk_sound, hresolve, h.2.2.2 (by simp [hnone])⟩

/-- The link to itself is cut short by a double dot, so the link to the outside stays in the path
that is let through, which is not let through by its own text. -/
theorem resolve_keeps_link :
    linkedDisk.Sound ∧
    ((⟨.ofText ['/', 'k'], 4⟩ : Sandbox).check linkedDisk
      (some ['r', '/', '.', '.', '/', 'o'])).outcome = .ok ⟨.slash, [['k'], ['o']]⟩ ∧
    linkedDisk.link? [['k'], ['o']] = some ['.', '.', '/', 's'] ∧
    linkedDisk.read ⟨.slash, [['k'], ['o']]⟩ = .ok [4, 5, 6, 7] ∧
    ((⟨.ofText ['/', 'k'], 4⟩ : Sandbox).resolve linkedDisk
      (some (Path.text ⟨.slash, [['k'], ['o']]⟩))).outcome =
        .error (.outsideBase ['/', 'k', '/', 'o'] ['/', 'k']) :=
  ⟨linkedDisk_sound, by cbv, by cbv, by cbv, by cbv⟩

end Sandbox
end Quarry
